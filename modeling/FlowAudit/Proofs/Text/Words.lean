import Mathlib.Data.List.TakeDrop
import Mathlib.Data.List.TakeWhile
import FlowAudit.Text.Blank

/-!
# The words of a text

`Spells` says what it is for a text to be made of words with blanks around them. Every text is so
made of its words, and of no other ones (`spells_iff`). Blanks in front of a text and behind it make
no difference, and so a carriage return that ends a line makes none (`words_finishLine`).
-/

namespace FlowAudit.Text

/-! ### Words -/

/-- A word has characters, none of which is blank. -/
structure IsWord (w : List Char) : Prop where
  ne_nil : w ≠ []
  not_blank : ∀ c ∈ w, isBlank c = false

/-- A text is made of the given words, in their order and with blanks around them. -/
inductive Spells : List Char → List (List Char) → Prop
  | blank {s : List Char} (hs : ∀ c ∈ s, isBlank c = true) : Spells s []
  | word {front w rest : List Char} {ws : List (List Char)}
    (hfront : ∀ c ∈ front, isBlank c = true) (hw : IsWord w)
    (hgap : ∀ c ∈ rest.head?, isBlank c = true) (hrest : Spells rest ws) :
    Spells (front ++ (w ++ rest)) (w :: ws)

variable {s : List Char} {ws : List (List Char)} {c : Char}

theorem Spells.cons_blank (h : Spells s ws) (hc : isBlank c = true) : Spells (c :: s) ws := by
  cases h with
  | blank hs => exact .blank (List.forall_mem_cons.mpr ⟨hc, hs⟩)
  | word hfront hw hgap hrest =>
    rw [← List.cons_append]
    exact .word (List.forall_mem_cons.mpr ⟨hc, hfront⟩) hw hgap hrest

theorem Spells.append_blank (h : Spells s ws) (hc : isBlank c = true) : Spells (s ++ [c]) ws := by
  induction h with
  | blank hs =>
    exact .blank (List.forall_mem_append.mpr ⟨hs, List.forall_mem_singleton.mpr hc⟩)
  | @word front w rest ws hfront hw hgap hrest ih =>
    rw [List.append_assoc, List.append_assoc]
    refine .word hfront hw (fun d hd => ?_) ih
    cases rest with
    | nil =>
      obtain rfl : c = d := by simpa using hd
      exact hc
    | cons e rest => exact hgap d hd

/-- What two texts spell is spelled by both of them with a blank in between. -/
theorem Spells.append {s' : List Char} {ws' : List (List Char)} (h : Spells s ws)
    (h' : Spells s' ws') (hgap : ∀ c ∈ s'.head?, isBlank c = true) :
    Spells (s ++ s') (ws ++ ws') := by
  induction h with
  | @blank s hs =>
    rw [List.nil_append]
    induction s with
    | nil => exact h'
    | cons c s ih =>
      rw [List.forall_mem_cons] at hs
      exact (ih hs.2).cons_blank hs.1
  | @word front w rest ws hfront hw hrest _ ih =>
    rw [List.append_assoc, List.append_assoc]
    refine .word hfront hw (fun c hc => ?_) ih
    cases rest with
    | nil => exact hgap c hc
    | cons d rest => exact hrest c hc

theorem Spells.cons {w : List Char} (h : Spells s ws) (hw : IsWord w)
    (hgap : ∀ c ∈ s.head?, isBlank c = true) : Spells (w ++ s) (w :: ws) := by
  rw [← List.nil_append (w ++ s)]
  exact .word (List.forall_mem_nil _) hw hgap h

/-- Words with a blank between them spell themselves. -/
theorem spells_intercalate (hws : ∀ w ∈ ws, IsWord w) : Spells ([' '].intercalate ws) ws := by
  induction ws with
  | nil => exact .blank (by simp [List.intercalate])
  | cons w ws ih =>
    rw [List.forall_mem_cons] at hws
    have hrest := ih hws.2
    cases ws with
    | nil => simpa [List.intercalate] using hrest.cons hws.1 (by simp [List.intercalate])
    | cons v ws =>
      have hblank : isBlank ' ' = true := by decide
      have hfirst := (hrest.cons_blank hblank).cons hws.1 (by simpa using hblank)
      simpa [List.intercalate] using hfirst

theorem eq_or_exists_of_mem_intercalate {c : Char} (hc : c ∈ [' '].intercalate ws) :
    c = ' ' ∨ ∃ w ∈ ws, c ∈ w := by
  induction ws with
  | nil => simp [List.intercalate] at hc
  | cons w ws ih =>
    cases ws with
    | nil => exact .inr ⟨w, List.mem_cons_self, by simpa [List.intercalate] using hc⟩
    | cons v ws =>
      have hparts : c ∈ w ∨ c = ' ' ∨ c ∈ [' '].intercalate (v :: ws) := by
        simpa [List.intercalate] using hc
      rcases hparts with hc | hc | hc
      · exact .inr ⟨w, List.mem_cons_self, hc⟩
      · exact .inl hc
      · exact (ih hc).imp_right fun ⟨u, hu, hmem⟩ => ⟨u, List.mem_cons_of_mem w hu, hmem⟩

/-! ### What is read as words -/

theorem wordsFrom_append_of_not_blank {w : List Char} (hw : ∀ c ∈ w, isBlank c = false)
    (pending rest : List Char) :
    wordsFrom pending (w ++ rest) = wordsFrom (w.reverse ++ pending) rest := by
  induction w generalizing pending with
  | nil => rfl
  | cons c w ih =>
    rw [List.forall_mem_cons] at hw
    rw [List.cons_append, wordsFrom, if_neg (by simp [hw.1]), ih hw.2, List.reverse_cons,
      List.append_assoc]
    rfl

theorem wordsFrom_append_of_blank {front : List Char} (hfront : ∀ c ∈ front, isBlank c = true)
    (rest : List Char) : wordsFrom [] (front ++ rest) = wordsFrom [] rest := by
  induction front with
  | nil => rfl
  | cons c front ih =>
    rw [List.forall_mem_cons] at hfront
    rw [List.cons_append, wordsFrom, if_pos hfront.1, if_pos List.isEmpty_nil, ih hfront.2]

/-- A word ends where a blank follows, or nothing at all. -/
theorem wordsFrom_of_gap {pending rest : List Char} (hpending : pending ≠ [])
    (hgap : ∀ c ∈ rest.head?, isBlank c = true) :
    wordsFrom pending rest = pending.reverse :: wordsFrom [] rest := by
  have hempty : ¬ pending.isEmpty = true := by simpa using hpending
  cases rest with
  | nil => rw [wordsFrom, if_neg hempty, wordsFrom, if_pos List.isEmpty_nil]
  | cons c rest =>
    have hc : isBlank c = true := hgap c rfl
    rw [wordsFrom, if_pos hc, if_neg hempty, wordsFrom, if_pos hc, if_pos List.isEmpty_nil]

theorem Spells.words_eq (h : Spells s ws) : words s = ws := by
  unfold words
  induction h with
  | @blank s hs =>
    have hall := wordsFrom_append_of_blank hs []
    rwa [List.append_nil] at hall
  | @word front w rest ws hfront hw hgap hrest ih =>
    have hne : w.reverse ≠ [] := by simpa using hw.ne_nil
    rw [wordsFrom_append_of_blank hfront, wordsFrom_append_of_not_blank hw.not_blank,
      List.append_nil, wordsFrom_of_gap hne hgap, List.reverse_reverse, ih]

/-- A text is made of its words, also behind an unfinished one. -/
theorem spells_wordsFrom (pending : List Char) (hpending : ∀ c ∈ pending, isBlank c = false)
    (s : List Char) : Spells (pending.reverse ++ s) (wordsFrom pending s) := by
  induction s generalizing pending with
  | nil =>
    rw [wordsFrom]
    split
    · rename_i hempty
      exact .blank (by simp_all)
    · rename_i hempty
      exact Spells.cons (.blank (by simp)) ⟨by simpa using hempty, by simpa using hpending⟩
        (by simp)
  | cons c s ih =>
    have hnew := ih [] (by simp)
    rw [List.reverse_nil, List.nil_append] at hnew
    rw [wordsFrom]
    split
    · rename_i hc
      split
      · rename_i hempty
        obtain rfl : pending = [] := by simpa using hempty
        exact hnew.cons_blank hc
      · rename_i hempty
        exact (hnew.cons_blank hc).cons ⟨by simpa using hempty, by simpa using hpending⟩
          (by simpa using hc)
    · rename_i hc
      have hlonger := ih (c :: pending) (List.forall_mem_cons.mpr ⟨by simpa using hc, hpending⟩)
      rwa [List.reverse_cons, List.append_assoc] at hlonger

/-- The words of a text are those that it is made of. -/
theorem spells_iff : Spells s ws ↔ words s = ws := by
  constructor
  · exact Spells.words_eq
  · rintro rfl
    exact spells_wordsFrom [] (by simp) s

/-- A blank stands between words. -/
theorem words_append_cons (hc : isBlank c = true) (s more : List Char) :
    words (s ++ c :: more) = words s ++ words more :=
  ((spells_iff.mpr rfl).append ((spells_iff.mpr rfl).cons_blank hc)
    fun d hd => by rwa [← Option.some.inj hd]).words_eq

/-- A text without words is blank. -/
theorem isEmpty_words (s : List Char) : (words s).isEmpty = s.all isBlank := by
  rw [Bool.eq_iff_iff, List.isEmpty_iff, ← spells_iff, List.all_eq_true]
  constructor
  · rintro (hs | _)
    exact hs
  · exact .blank

/-- The carriage return in front of a line feed is part of no word. -/
theorem words_finishLine (line : List Char) : words (finishLine line) = words line.reverse := by
  unfold finishLine
  split
  · rename_i rest
    rw [List.reverse_cons]
    exact ((spells_iff.mpr rfl).append_blank (by decide)).words_eq.symm
  · rfl

/-! ### Lines -/

/-- The words of each line that is not blank. -/
def wordLines (s : List Char) : List (List (List Char)) :=
  ((lines s).map words).filter fun ws => !ws.isEmpty

theorem linesFrom_cons_of_ne (hc : c ≠ '\n') (pending rest : List Char) :
    linesFrom pending (c :: rest) = linesFrom (c :: pending) rest := by
  rw [linesFrom]
  exact hc

/-- The lines behind a line feed do not depend on those in front of it. -/
theorem wordLines_append (front back : List Char) :
    wordLines (front ++ '\n' :: back) = wordLines front ++ wordLines back := by
  -- also behind an unfinished line
  have hfrom (pending : List Char) :
      ((linesFrom pending (front ++ '\n' :: back)).map words).filter (fun ws => !ws.isEmpty) =
        ((linesFrom pending front).map words).filter (fun ws => !ws.isEmpty) ++
          wordLines back := by
    induction front generalizing pending with
    | nil =>
      have hend : linesFrom pending ('\n' :: back) = finishLine pending :: lines back := rfl
      rw [List.nil_append, hend, List.map_cons, words_finishLine]
      cases pending with
      | nil => rfl
      | cons c pending =>
        have hlast : linesFrom (c :: pending) [] = [(c :: pending).reverse] := rfl
        rw [hlast, List.map_singleton, List.filter_cons, List.filter_cons]
        split <;> rfl
    | cons c front ih =>
      rw [List.cons_append]
      by_cases hc : c = '\n'
      · subst hc
        rw [linesFrom, linesFrom, List.map_cons, List.map_cons, List.filter_cons, List.filter_cons,
          ih]
        split <;> rfl
      · rw [linesFrom_cons_of_ne hc, linesFrom_cons_of_ne hc, ih]
  exact hfrom []

/-- A text without a line feed is one line. -/
theorem wordLines_of_notMem (hs : '\n' ∉ s) :
    wordLines s = if (words s).isEmpty then [] else [words s] := by
  have hfrom (pending : List Char) : linesFrom pending s = linesFrom (s.reverse ++ pending) [] := by
    induction s generalizing pending with
    | nil => rfl
    | cons c s ih =>
      rw [List.mem_cons, not_or] at hs
      rw [linesFrom_cons_of_ne fun h => hs.1 h.symm, ih hs.2, List.reverse_cons, List.append_assoc]
      rfl
  rw [wordLines, lines, hfrom, List.append_nil, linesFrom, List.reverse_reverse]
  cases s with
  | nil => rfl
  | cons c s => simp [List.filter_cons]

/-- How a line ends. -/
inductive LineEnd where
  | lineFeed
  | carriageReturn
  deriving DecidableEq, Repr

/-- The characters that end a line. -/
def LineEnd.text : LineEnd → List Char
  | .lineFeed => ['\n']
  | .carriageReturn => ['\r', '\n']

/-- A text of lines with their ends, and of a last line that has none. -/
def joinLines (lines : List (List Char × LineEnd)) (last : List Char) : List Char :=
  lines.flatMap (fun line => line.1 ++ line.2.text) ++ last

theorem joinLines_cons (line : List Char × LineEnd) (lines : List (List Char × LineEnd))
    (last : List Char) :
    joinLines (line :: lines) last = line.1 ++ line.2.text ++ joinLines lines last := by
  simp [joinLines]

/-- A line is read the same whichever way it ends. -/
theorem wordLines_append_text (hs : '\n' ∉ s) (ending : LineEnd) (rest : List Char) :
    wordLines (s ++ ending.text ++ rest) = wordLines s ++ wordLines rest := by
  cases ending with
  | lineFeed =>
    rw [LineEnd.text, List.append_assoc, List.singleton_append, wordLines_append]
  | carriageReturn =>
    have hreturn : '\n' ∉ s ++ ['\r'] := by simpa using hs
    have hwords : words (s ++ ['\r']) = words s :=
      ((spells_iff.mpr rfl).append_blank (by decide)).words_eq
    have hsplit : s ++ LineEnd.carriageReturn.text ++ rest = s ++ ['\r'] ++ '\n' :: rest := by
      simp [LineEnd.text]
    rw [hsplit, wordLines_append, wordLines_of_notMem hreturn, hwords, wordLines_of_notMem hs]

/-- The lines of a text that is put together from lines. -/
theorem wordLines_joinLines {lines : List (List Char × LineEnd)} {last : List Char}
    (hlines : ∀ line ∈ lines, '\n' ∉ line.1) :
    wordLines (joinLines lines last) =
      lines.flatMap (fun line => wordLines line.1) ++ wordLines last := by
  induction lines with
  | nil => rfl
  | cons line lines ih =>
    rw [List.forall_mem_cons] at hlines
    rw [joinLines_cons, wordLines_append_text hlines.1, ih hlines.2, List.flatMap_cons,
      List.append_assoc]

/-! ### Pieces -/

variable {sep : Char} {front back : List Char}

theorem after?_eq_some_iff : after? front s = some back ↔ s = front ++ back := by
  induction front generalizing s with
  | nil => simp [after?]
  | cons c front ih =>
    cases s with
    | nil => simp [after?]
    | cons d s =>
      rw [after?, List.cons_append, List.cons.injEq]
      split
      · rename_i hc
        rw [ih]
        simp [hc]
      · rename_i hc
        simp [Ne.symm hc]

theorem splitOnce?_append (hfront : sep ∉ front) (back : List Char) :
    splitOnce? sep (front ++ sep :: back) = some (front, back) := by
  induction front with
  | nil => simp [splitOnce?]
  | cons c front ih =>
    rw [List.mem_cons, not_or] at hfront
    rw [List.cons_append, splitOnce?, if_neg fun h => hfront.1 h.symm, ih hfront.2]
    rfl

/-- A text that is split at a separator is told by its two parts, if the separator is in neither
first part. -/
theorem append_cons_inj {front' back' : List Char} (hfront : sep ∉ front) (hfront' : sep ∉ front') :
    front ++ sep :: back = front' ++ sep :: back' ↔ front = front' ∧ back = back' := by
  constructor
  · intro h
    have hsplit := splitOnce?_append hfront back
    rw [h, splitOnce?_append hfront' back'] at hsplit
    exact (Prod.mk.inj (Option.some.inj hsplit)).imp Eq.symm Eq.symm
  · rintro ⟨rfl, rfl⟩
    rfl

/-- A text that is split at its last separator is told by its two parts. -/
theorem append_cons_inj_of_back {front' back' : List Char} (hback : sep ∉ back)
    (hback' : sep ∉ back') :
    front ++ sep :: back = front' ++ sep :: back' ↔ front = front' ∧ back = back' := by
  rw [← List.reverse_inj, List.reverse_append, List.reverse_append, List.reverse_cons,
    List.reverse_cons, List.append_assoc, List.append_assoc, List.singleton_append,
    List.singleton_append, append_cons_inj (List.mem_reverse.not.mpr hback)
      (List.mem_reverse.not.mpr hback'), List.reverse_inj, List.reverse_inj, and_comm]

theorem splitOnce?_eq_none_iff : splitOnce? sep s = none ↔ sep ∉ s := by
  induction s with
  | nil => simp [splitOnce?]
  | cons c s ih =>
    rw [splitOnce?, List.mem_cons, not_or]
    split
    · rename_i hc
      simp [hc]
    · rename_i hc
      rw [Option.map_eq_none_iff, ih]
      exact ⟨fun h => ⟨fun h' => hc h'.symm, h⟩, And.right⟩

/-- A text is split at its first separator. -/
theorem eq_of_splitOnce? (h : splitOnce? sep s = some (front, back)) :
    s = front ++ sep :: back ∧ sep ∉ front := by
  induction s generalizing front with
  | nil => simp [splitOnce?] at h
  | cons c s ih =>
    rw [splitOnce?] at h
    split at h
    · rename_i hc
      obtain ⟨rfl, rfl⟩ := Prod.mk.inj (Option.some.inj h)
      exact ⟨by rw [hc, List.nil_append], by simp⟩
    · rename_i hc
      obtain ⟨⟨front', back'⟩, hsplit, heq⟩ := Option.map_eq_some_iff.mp h
      obtain ⟨rfl, rfl⟩ := Prod.mk.inj heq
      obtain ⟨rfl, hfront⟩ := ih hsplit
      refine ⟨rfl, ?_⟩
      rw [List.mem_cons, not_or]
      exact ⟨fun h' => hc h'.symm, hfront⟩

/-- A text is split where a condition stops to hold. -/
theorem span_append {p : Char → Bool} {front back : List Char} (hfront : ∀ c ∈ front, p c = true)
    (hback : ∀ c ∈ back.head?, p c = false) : (front ++ back).span p = (front, back) := by
  have hnot : back.takeWhile p = [] ∧ back.dropWhile p = back := by
    cases back with
    | nil => exact ⟨rfl, rfl⟩
    | cons c back =>
      have hc : p c = false := hback c rfl
      simp [hc]
  rw [List.span_eq_takeWhile_dropWhile, List.takeWhile_append_of_pos hfront,
    List.dropWhile_append_of_pos hfront, hnot.1, hnot.2, List.append_nil]

end FlowAudit.Text
