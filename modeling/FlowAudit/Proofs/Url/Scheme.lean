import Mathlib.Data.List.DropRight
import FlowAudit.Proofs.Url.Authority

/-!
# What stands around the authority of a URL

Neither slashes at the end of a URL with a host (`parse_of_append_slashes`) nor anything that
follows its authority (`parse_of_authority`) make a difference for the scheme and the authority.
-/

namespace FlowAudit.Url

open Unicode (IsLow)

/-! ### Ends of texts -/

section Ends

variable {α : Type} {p : α → Bool}

theorem exists_rdropWhile (p : α → Bool) (s : List α) :
    ∃ back, (∀ c ∈ back, p c = true) ∧ s = s.rdropWhile p ++ back := by
  refine ⟨(s.reverse.takeWhile p).reverse, fun c hc => ?_, ?_⟩
  · exact List.mem_takeWhile_imp (List.mem_reverse.mp hc)
  · rw [List.rdropWhile, ← List.reverse_append, List.takeWhile_append_dropWhile,
      List.reverse_reverse]

/-- Nothing is dropped beyond an element that stays. -/
theorem rdropWhile_append_cons {c : α} (hc : p c = false) (front back : List α) :
    (front ++ c :: back).rdropWhile p = front ++ c :: back.rdropWhile p := by
  induction back using List.reverseRecOn with
  | nil =>
    rw [List.rdropWhile_concat_neg _ _ _ (by simpa using hc)]
    rfl
  | append_singleton back d ih =>
    rw [← List.cons_append, ← List.append_assoc]
    cases hd : p d with
    | true =>
      rw [List.rdropWhile_concat_pos _ _ _ hd, List.rdropWhile_concat_pos _ _ _ hd, ih]
    | false =>
      have hneg : ¬ p d = true := by simp [hd]
      rw [List.rdropWhile_concat_neg _ _ _ hneg, List.rdropWhile_concat_neg _ _ _ hneg]
      simp

end Ends

/-! ### Characters that do not count -/

/-- Whether a character counts that stands inside of a text. -/
def isKept (c : Char) : Bool :=
  c ≠ '\t' && c ≠ '\n' && c ≠ '\r'

theorem significant_eq (s : List Char) :
    significant s = ((s.dropWhile isPadding).rdropWhile isPadding).filter isKept := rfl

/-- In front of slashes at the end of a text, characters may count that do not at the end. -/
theorem significant_append_slashes (s : List Char) (k : Nat) :
    ∃ low, (∀ c ∈ low, IsLow c) ∧ ((∀ c ∈ s.getLast?, isPadding c = false) → low = []) ∧
      significant (s ++ List.replicate k '/') = significant s ++ low ++ List.replicate k '/' := by
  cases k with
  | zero => exact ⟨[], List.forall_mem_nil _, fun _ => rfl, by simp⟩
  | succ k =>
    obtain ⟨back, hback, hs⟩ := exists_rdropWhile isPadding (s.dropWhile isPadding)
    have hnone (hlast : ∀ c ∈ s.getLast?, isPadding c = false) : back = [] := by
      obtain hnil | ⟨front, c, hfront⟩ := List.eq_nil_or_concat back
      · exact hnil
      · obtain ⟨start, hstart⟩ := List.dropWhile_suffix (l := s) isPadding
        rw [hs, hfront, List.concat_eq_append, ← List.append_assoc, ← List.append_assoc] at hstart
        have hpadding := hback c (by simp [hfront])
        rw [hlast c (by rw [← hstart, List.getLast?_concat]; rfl)] at hpadding
        cases hpadding
    have hdrop : (s ++ List.replicate (k + 1) '/').dropWhile isPadding =
        s.dropWhile isPadding ++ List.replicate (k + 1) '/' := by
      have hslash :
          (List.replicate (k + 1) '/').dropWhile isPadding = List.replicate (k + 1) '/' := by
        rw [List.replicate_succ, List.dropWhile_cons_of_neg (by decide)]
      rw [List.dropWhile_append, hslash]
      split
      · rename_i hempty
        rw [List.isEmpty_iff.mp hempty, List.nil_append]
      · rfl
    have hkeep : (s.dropWhile isPadding ++ List.replicate (k + 1) '/').rdropWhile isPadding =
        s.dropWhile isPadding ++ List.replicate (k + 1) '/' := by
      rw [List.replicate_succ', ← List.append_assoc,
        List.rdropWhile_concat_neg _ _ _ (by decide)]
    refine ⟨back.filter isKept, fun c hc => ?_, fun hlast => by rw [hnone hlast]; rfl, ?_⟩
    · exact of_decide_eq_true (hback c (List.mem_of_mem_filter hc))
    · have hslashes : (List.replicate (k + 1) '/').filter isKept = List.replicate (k + 1) '/' :=
        List.filter_replicate_of_pos (by decide)
      rw [significant_eq, hdrop, hkeep, List.filter_append, hslashes, significant_eq,
        ← List.filter_append, ← hs]

/-! ### Schemes -/

/-- A scheme ends at the first colon. -/
theorem splitScheme?_eq_some_iff {s rest : List Char} {scheme : String} :
    splitScheme? s = some (scheme, rest) ↔
      ∃ name, s = name ++ ':' :: rest ∧ (∀ c ∈ name, isSchemeChar c = true) ∧
        name.head?.any Char.isAlpha = true ∧ scheme = String.ofList (name.map Char.toLower) := by
  have hcolon : isSchemeChar ':' = false := by decide
  constructor
  · intro h
    unfold splitScheme? at h
    rw [List.span_eq_takeWhile_dropWhile] at h
    dsimp only at h
    split at h
    · cases h
    · rename_i hhead
      obtain ⟨back, hback, heq⟩ := Option.bind_eq_some_iff.mp h
      obtain ⟨rfl, rfl⟩ := Prod.mk.inj (Option.some.inj heq)
      rw [Text.after?_eq_some_iff] at hback
      refine ⟨s.takeWhile isSchemeChar, ?_, fun c hc => List.mem_takeWhile_imp hc,
        by simpa using hhead, rfl⟩
      rw [← List.singleton_append, ← hback, List.takeWhile_append_dropWhile]
  · rintro ⟨name, rfl, hname, hhead, rfl⟩
    have hspan := @Text.span_append isSchemeChar name (':' :: rest) hname fun c hc => by
      obtain rfl : ':' = c := by simpa using hc
      exact hcolon
    rw [splitScheme?, hspan]
    simp [hhead, Text.after?]

/-- What stands behind the colon does not matter for the scheme. -/
theorem splitScheme?_append {s back rest : List Char} {scheme : String}
    (h : splitScheme? (s ++ back) = some (scheme, rest)) (hback : ':' ∉ back) :
    ∃ rest', rest = rest' ++ back ∧ splitScheme? s = some (scheme, rest') := by
  obtain ⟨name, hs, hname, hhead, rfl⟩ := splitScheme?_eq_some_iff.mp h
  obtain ⟨mid, hfront, hmid⟩ | ⟨mid, hfront, hmid⟩ := List.append_eq_append_iff.mp hs
  · -- the colon would be one of `back`
    exact absurd (by rw [hmid]; simp) hback
  · cases mid with
    | nil => exact absurd (by rw [← List.nil_append back, ← hmid]; simp) hback
    | cons c mid =>
      obtain ⟨rfl, rfl⟩ := List.cons.inj hmid
      exact ⟨mid, rfl, splitScheme?_eq_some_iff.mpr ⟨name, hfront, hname, hhead, rfl⟩⟩

/-- A URL of a web server has a scheme under which there is a host. -/
theorem splitScheme?_of_parse {text : String} {u : Url} (h : parse text = .ok u)
    (hweb : u.isWeb = true) :
    SchemeKind.of u.scheme = .special ∧
      ∃ rest, splitScheme? (significant text.toList) = some (u.scheme, rest) := by
  have hkind : SchemeKind.of u.scheme = .special := by
    rw [isWeb, Bool.or_eq_true, decide_eq_true_eq, decide_eq_true_eq] at hweb
    rcases hweb with hweb | hweb <;> rw [hweb] <;> decide
  refine ⟨hkind, ?_⟩
  unfold parse at h
  split at h
  · cases h
  · rename_i scheme rest hscheme
    refine ⟨rest, ?_⟩
    dsimp only at h
    generalize parseMain _ _ _ = main at h
    cases main with
    | error e => cases h
    | ok parts =>
      obtain rfl := Except.ok.inj h
      exact hscheme

/-- A URL of a web server that was read is put together from its scheme and its authority. -/
theorem exists_of_parse_web {text : String} {u : Url} (h : parse text = .ok u)
    (hweb : u.isWeb = true) :
    ∃ rest a, splitScheme? (significant text.toList) = some (u.scheme, rest) ∧
      parseAuthority u.scheme .special (authorityText rest) false = .ok a ∧
      u.IsFinished u.scheme rest a := by
  obtain ⟨hkind, rest, hscheme⟩ := splitScheme?_of_parse h hweb
  rw [parse_special hscheme hkind] at h
  cases hread : parseAuthority u.scheme .special (authorityText rest) false with
  | error e =>
    rw [hread] at h
    cases h
  | ok a =>
    rw [hread] at h
    have hu : finish u.scheme rest a = u := Except.ok.inj h
    have hfinished := isFinished_finish u.scheme rest a
    rw [hu] at hfinished
    exact ⟨rest, a, hscheme, hread, hfinished⟩

/-! ### Slashes at the end -/

/-- What stands behind an authority that ends in no other way is part of it. -/
theorem authorityText_append (rest : List Char) {low : List Char} (hlow : ∀ c ∈ low, IsLow c)
    (k : Nat) :
    authorityText (rest ++ (low ++ List.replicate k '/')) = authorityText rest ∨
      authorityText (rest ++ (low ++ List.replicate k '/')) = authorityText rest ++ low ∧
        low ≠ [] := by
  have hnot : ∀ c ∈ low, (!endsAuthority c) = true := fun c hc =>
    (hlow c hc).of_forall (p := fun c => (!endsAuthority c) = true) (by decide)
  have hback : (low ++ List.replicate k '/').takeWhile (!endsAuthority ·) = low := by
    rw [List.takeWhile_append_of_pos hnot]
    cases k with
    | zero => exact List.append_nil low
    | succ k =>
      rw [List.replicate_succ, List.takeWhile_cons_of_neg (by decide), List.append_nil]
  have hcase : low = [] ∨ low ≠ [] := Decidable.em _
  rw [authorityText, authorityText, List.dropWhile_append]
  split
  · -- no authority in front
    rename_i hempty
    rw [List.isEmpty_iff.mp hempty, List.takeWhile_nil, List.nil_append]
    cases low with
    | nil =>
      have hslashes : (List.replicate k '/').dropWhile (isSlash true) = [] := by
        rw [List.dropWhile_eq_nil_iff]
        intro c hc
        rw [List.eq_of_mem_replicate hc]
        decide
      rw [List.nil_append, hslashes]
      exact .inl rfl
    | cons c low =>
      have hslash : ¬ isSlash true c = true :=
        (hlow c List.mem_cons_self).of_forall (p := fun c => ¬ isSlash true c = true) (by decide)
      rw [List.cons_append, List.dropWhile_cons_of_neg hslash, ← List.cons_append, hback]
      exact .inr ⟨rfl, List.cons_ne_nil c low⟩
  · rw [List.takeWhile_append, hback]
    split
    · rename_i hlength
      have hall := (List.takeWhile_prefix (!endsAuthority ·)).eq_of_length hlength
      rw [hall]
      exact hcase.imp (fun h => by rw [h, List.append_nil]) (fun h => ⟨rfl, h⟩)
    · exact .inl rfl

/-- What stands behind a mark does not belong to the path. -/
theorem takeWhile_append_of_isMark {s : List Char} (hs : ¬∀ c ∈ s, isMark c = false)
    (back : List Char) :
    (s ++ back).takeWhile (!isMark ·) = s.takeWhile (!isMark ·) := by
  rw [List.takeWhile_append]
  refine if_neg fun hlength => hs ?_
  have hall := (List.takeWhile_prefix (!isMark ·)).eq_of_length hlength
  rw [List.takeWhile_eq_self_iff] at hall
  exact fun c hc => by simpa using hall c hc

theorem takeWhile_of_notMark {s : List Char} (hs : ∀ c ∈ s, isMark c = false) :
    s.takeWhile (!isMark ·) = s :=
  List.takeWhile_eq_self_iff.mpr fun c hc => by simp [hs c hc]

/-- Slashes behind a path belong to it. -/
theorem pathText_append_slashes {rest : List Char} (hne : authorityText rest ≠ [])
    (hmarks : ∀ c ∈ rest, isMark c = false) (k : Nat) :
    pathText (rest ++ List.replicate k '/') = pathText rest ++ List.replicate k '/' := by
  have hslashes : (List.replicate k '/').dropWhile (!isSlash true ·) = List.replicate k '/' := by
    cases k with
    | zero => rfl
    | succ k => rw [List.replicate_succ, List.dropWhile_cons_of_neg (by decide)]
  have hauthority : ¬ (rest.dropWhile (isSlash true)).isEmpty = true := by
    rw [List.isEmpty_iff]
    intro hempty
    rw [authorityText, hempty] at hne
    exact hne rfl
  have hmarks' : ∀ c ∈ rest ++ List.replicate k '/', isMark c = false := by
    rw [List.forall_mem_append]
    exact ⟨hmarks, fun c hc => List.eq_of_mem_replicate hc ▸ by decide⟩
  rw [pathText, pathText, takeWhile_of_notMark hmarks', takeWhile_of_notMark hmarks,
    List.dropWhile_append, if_neg hauthority, List.dropWhile_append, hslashes]
  split
  · rename_i hempty
    rw [List.isEmpty_iff.mp hempty, List.nil_append]
  · rfl

/-- Slashes at the end of a URL of a web server make no difference for its authority. They belong to
its path if nothing follows the path and no blank stands in front of them; if something follows, the
path is the same without them. -/
theorem parse_of_append_slashes {text text' : String} {k : Nat} {u : Url}
    (htext : text.toList = text'.toList ++ List.replicate k '/') (h : parse text = .ok u)
    (hweb : u.isWeb = true) :
    ∃ u', parse text' = .ok u' ∧ u'.scheme = u.scheme ∧ u'.authority = u.authority ∧
      (u'.IsBare ↔ u.IsBare) ∧ (¬u.IsBare → u'.path = u.path) ∧
      (u.IsBare → (∀ c ∈ text'.toList.getLast?, isPadding c = false) → ∃ path,
        u.path = .segments (parsePath .special (path ++ List.replicate k '/')) ∧
          u'.path = .segments (parsePath .special path)) := by
  obtain ⟨hkind, -⟩ := splitScheme?_of_parse h hweb
  obtain ⟨rest, a, hscheme, ha, hu⟩ := exists_of_parse_web h hweb
  obtain ⟨low, hlow, hnone, hsig⟩ := significant_append_slashes text'.toList k
  rw [htext, hsig, List.append_assoc] at hscheme
  have hcolon : ':' ∉ low ++ List.replicate k '/' := by
    rw [List.mem_append, not_or, List.mem_replicate]
    refine ⟨fun hmem => ?_, fun hmem => absurd hmem.2 (by decide)⟩
    exact absurd rfl ((hlow ':' hmem).of_forall (p := (· ≠ ':')) (by decide))
  obtain ⟨rest', rfl, hscheme'⟩ := splitScheme?_append hscheme hcolon
  have hparse' := parse_special hscheme' hkind
  have hfinish' := isFinished_finish u.scheme rest'
  obtain hsame | ⟨hlonger, hne⟩ := authorityText_append rest' hlow k
  · -- the authority is the same, and there are marks behind it only if there were some before
    rw [hsame] at ha
    have hu' := hfinish' a
    have hpath := hu.path
    have hpath' := hu'.path
    have hmarks : (∀ c ∈ rest' ++ (low ++ List.replicate k '/'), isMark c = false) ↔
        ∀ c ∈ rest', isMark c = false := by
      rw [List.forall_mem_append, List.forall_mem_append]
      refine and_iff_left ⟨fun c hc => ?_, fun c hc => ?_⟩
      · exact (hlow c hc).of_forall (p := fun c => isMark c = false) (by decide)
      · exact List.eq_of_mem_replicate hc ▸ by decide
    have hbare := hu.isBare.trans hmarks
    rw [snd_eq_nil_of_parseAuthority ha notMem_authorityText, List.nil_append] at hpath hpath'
    refine ⟨finish u.scheme rest' a, by rw [hparse', ha]; rfl, hu'.scheme,
      hu'.authority.trans hu.authority.symm, hu'.isBare.trans hbare.symm, fun hnot => ?_,
      fun hnothing hlast => ?_⟩
    · rw [hbare] at hnot
      rw [hpath', hpath, pathText, pathText, takeWhile_append_of_isMark hnot]
    · have hne : authorityText rest' ≠ [] := by
        intro hempty
        rw [hempty] at ha
        cases ha
      rw [hnone hlast, List.nil_append,
        pathText_append_slashes hne (hbare.mp hnothing)] at hpath
      exact ⟨pathText rest', hpath, hpath'⟩
  · -- an authority with more behind it would end in a control or a blank
    have hlast : (authorityText (rest' ++ (low ++ List.replicate k '/'))).getLast? =
        some (low.getLast hne) := by
      rw [hlonger, List.getLast?_append, List.getLast?_eq_some_getLast hne, Option.some_or]
    exact absurd ha
      (parseAuthority_of_low (hlow _ (List.getLast_mem hne)) hlast notMem_authorityText a)

/-! ### What follows an authority -/

/-- What is read as part of an authority and stays in it. -/
def isPlain (c : Char) : Bool :=
  !endsAuthority c && isKept c

theorem of_isPlain {c : Char} (hc : isPlain c = true) :
    isSlash true c = false ∧ isMark c = false ∧ isKept c = true := by
  rw [isPlain, Bool.and_eq_true, Bool.not_eq_true', endsAuthority, Bool.or_assoc,
    Bool.or_eq_false_iff] at hc
  exact ⟨hc.1.1, hc.1.2, hc.2⟩

theorem isPlain_of_isNameChar {c : Char} (hc : Idna.IsNameChar c) : isPlain c = true := by
  rw [isPlain, endsAuthority, isSlash, isKept]
  simp [hc.ne (d := '/') (by decide), hc.ne (d := '\\') (by decide), hc.ne (d := '?') (by decide),
    hc.ne (d := '#') (by decide), hc.ne (d := '\t') (by decide), hc.ne (d := '\n') (by decide),
    hc.ne (d := '\r') (by decide)]

theorem isPlain_of_mem_render {a : Authority} {host : Host} (ha : a.host = some host)
    (hhost : host.IsStable) (huser : ∀ c ∈ a.renderUser.toList, isPlain c = true) :
    ∀ c ∈ a.render.toList, isPlain c = true := by
  intro c hc
  rw [render_eq ha, List.mem_append, List.mem_append] at hc
  rcases hc with hc | hc | hc
  · exact huser c hc
  · exact Host.of_mem_render_of_isStable hhost (p := fun c => isPlain c = true) (by decide)
      (fun _ => isPlain_of_isNameChar) hc
  · exact of_mem_portText (p := fun c => isPlain c = true) (by decide) hc

/-- Whether every character of a text counts that stands at the end of a URL. -/
def IsKeptEnd (s : List Char) : Prop :=
  (∀ c ∈ s, isKept c = true) ∧ ∀ c ∈ s.getLast?, isPadding c = false

/-- All that counts of a text stays in front of a character that ends an authority. -/
theorem significant_append_cons {c d : Char} {front : List Char} (hc : isPadding c = false)
    (hfront : ∀ e ∈ c :: front, isKept e = true) (hd : endsAuthority d = true)
    (back : List Char) :
    ∃ back', significant (c :: front ++ d :: back) = c :: front ++ d :: back' ∧
      (IsKeptEnd (d :: back) → back' = back) := by
  have hpadding : isPadding d = false := by
    rw [← Bool.not_eq_true]
    intro hlow
    have hnot := IsLow.of_forall (p := fun d => endsAuthority d = false) (by decide)
      (of_decide_eq_true hlow : IsLow d)
    rw [hd] at hnot
    cases hnot
  have hkept : isKept d = true := by
    rw [← Bool.not_eq_false]
    intro hnot
    have hlow : d = '\t' ∨ d = '\n' ∨ d = '\r' := by
      simp only [isKept, Bool.and_eq_false_iff, decide_eq_false_iff_not, Decidable.not_not] at hnot
      exact or_assoc.mp hnot
    rcases hlow with rfl | rfl | rfl <;> cases hd
  refine ⟨(back.rdropWhile isPadding).filter isKept, ?_, fun ⟨hall, hlast⟩ => ?_⟩
  · rw [significant_eq, List.cons_append, List.dropWhile_cons_of_neg (by simp [hc]),
      ← List.cons_append, rdropWhile_append_cons hpadding, List.filter_append,
      List.filter_cons_of_pos hkept, List.filter_eq_self.mpr hfront]
  · have hwhole : back.rdropWhile isPadding = back := by
      obtain rfl | ⟨mid, e, heq⟩ := List.eq_nil_or_concat back
      · rfl
      · rw [List.concat_eq_append] at heq
        rw [heq, ← List.cons_append, List.getLast?_concat] at hlast
        rw [heq, List.rdropWhile_concat_neg _ _ _ (by simp [hlast e rfl])]
    rw [hwhole, List.filter_eq_self]
    exact (List.forall_mem_cons.mp hall).2

/-- What stands between slashes and a character that ends an authority is the authority. -/
theorem authorityText_of_isPlain {auth : List Char} (hne : auth ≠ [])
    (hauth : ∀ c ∈ auth, isPlain c = true) {d : Char} (hd : endsAuthority d = true)
    (back : List Char) : authorityText ('/' :: '/' :: (auth ++ d :: back)) = auth := by
  have hends : ∀ c ∈ auth, (!endsAuthority c) = true := fun c hc =>
    (Bool.and_eq_true_iff.mp (hauth c hc)).1
  cases auth with
  | nil => exact absurd rfl hne
  | cons c auth =>
    have hslash : ¬ isSlash true c = true := by
      intro hslash
      have hnot := hends c List.mem_cons_self
      simp [endsAuthority, hslash] at hnot
    rw [authorityText, List.dropWhile_cons_of_pos (by decide),
      List.dropWhile_cons_of_pos (by decide), List.cons_append,
      List.dropWhile_cons_of_neg hslash, ← List.cons_append, List.takeWhile_append_of_pos hends,
      List.takeWhile_cons_of_neg (by simp [hd]), List.append_nil]

/-- The schemes of web servers are read as they are written. -/
theorem webScheme_spec {scheme : String} (h : scheme = "http" ∨ scheme = "https") :
    SchemeKind.of scheme = .special ∧ scheme.toList.Forall (isSchemeChar · = true) ∧
      (scheme.toList.Forall fun c => isPadding c = false ∧ isKept c = true) ∧
      scheme.toList.head?.any Char.isAlpha = true ∧
      scheme = String.ofList (scheme.toList.map Char.toLower) := by
  rcases h with rfl | rfl <;> decide +kernel

/-- All that counts of the text of a URL stays in front of what ends its authority. -/
theorem significant_of_authority {text scheme : String} {auth back : List Char} {d : Char}
    (hweb : scheme = "http" ∨ scheme = "https") (hauth : ∀ c ∈ auth, isPlain c = true)
    (hd : endsAuthority d = true)
    (htext : text.toList = scheme.toList ++ ':' :: '/' :: '/' :: (auth ++ d :: back)) :
    ∃ back', significant text.toList =
        scheme.toList ++ ':' :: '/' :: '/' :: (auth ++ d :: back') ∧
      (IsKeptEnd (d :: back) → back' = back) := by
  obtain ⟨-, -, hcounts, hhead, -⟩ := webScheme_spec hweb
  rw [List.forall_iff_forall_mem] at hcounts
  cases hchars : scheme.toList with
  | nil =>
    rw [hchars] at hhead
    cases hhead
  | cons c name =>
    have hkept : ∀ e ∈ c :: (name ++ ':' :: '/' :: '/' :: auth), isKept e = true := by
      intro e he
      rw [← List.cons_append, ← hchars, List.mem_append, List.mem_cons, List.mem_cons,
        List.mem_cons] at he
      rcases he with he | rfl | rfl | rfl | he
      · exact (hcounts e he).2
      · decide
      · decide
      · decide
      · exact (Bool.and_eq_true_iff.mp (hauth e he)).2
    have hpadding := (hcounts c (by rw [hchars]; exact List.mem_cons_self)).1
    obtain ⟨back', hback', hwhole⟩ := significant_append_cons hpadding hkept hd back
    refine ⟨back', ?_, hwhole⟩
    rw [htext, hchars]
    simpa using hback'

/-- What stands behind an authority is the path, up to a mark. -/
theorem pathText_of_isPlain {auth : List Char} (hne : auth ≠ [])
    (hauth : ∀ c ∈ auth, isPlain c = true) {d : Char} {back : List Char}
    (hd : endsAuthority d = true) :
    pathText ('/' :: '/' :: (auth ++ d :: back)) = (d :: back).takeWhile (!isMark ·) ∧
      ((∀ c ∈ '/' :: '/' :: (auth ++ d :: back), isMark c = false) ↔
        ∀ c ∈ d :: back, isMark c = false) := by
  have hinside : ∀ c ∈ auth, isSlash true c = false ∧ isMark c = false := fun c hc => by
    have hends : endsAuthority c = false := by
      simpa using (Bool.and_eq_true_iff.mp (hauth c hc)).1
    rw [endsAuthority, Bool.or_assoc, Bool.or_eq_false_iff] at hends
    exact hends
  have hslash : isMark '/' = false := by decide
  constructor
  · have hrest : ((d :: back).takeWhile (!isMark ·)).dropWhile (!isSlash true ·) =
        (d :: back).takeWhile (!isMark ·) := by
      cases hmark : isMark d with
      | true => rw [List.takeWhile_cons_of_neg (by simp [hmark]), List.dropWhile_nil]
      | false =>
        rw [endsAuthority, Bool.or_assoc, ← isMark, hmark, Bool.or_false] at hd
        rw [List.takeWhile_cons_of_pos (by simp [hmark]),
          List.dropWhile_cons_of_neg (by simp [hd])]
    have hpath : ('/' :: '/' :: (auth ++ d :: back)).takeWhile (!isMark ·) =
        '/' :: '/' :: (auth ++ (d :: back).takeWhile (!isMark ·)) := by
      rw [List.takeWhile_cons_of_pos (by decide), List.takeWhile_cons_of_pos (by decide),
        List.takeWhile_append_of_pos fun c hc => by simp [hinside c hc]]
    cases auth with
    | nil => exact absurd rfl hne
    | cons c auth =>
      rw [pathText, hpath, List.dropWhile_cons_of_pos (by decide),
        List.dropWhile_cons_of_pos (by decide), List.cons_append,
        List.dropWhile_cons_of_neg (by simp [hinside c List.mem_cons_self]), ← List.cons_append,
        List.dropWhile_append_of_pos fun c hc => by simp [hinside c hc], hrest]
  · rw [List.forall_mem_cons, List.forall_mem_cons, List.forall_mem_append, and_iff_right hslash,
      and_iff_right hslash, and_iff_right fun c hc => (hinside c hc).2]

/-- A URL of a web server is read with the authority that stands in it, whatever follows, and with
the path behind it, if all that follows counts. -/
theorem parse_of_authority {text scheme : String} {a : Authority} {host : Host} {d : Char}
    {back : List Char} (hweb : scheme = "http" ∨ scheme = "https") (ha : a.host = some host)
    (hhost : host.IsStable) (huser : ∀ c ∈ a.renderUser.toList, isPlain c = true)
    (hd : endsAuthority d = true)
    (htext : text.toList = scheme.toList ++ ':' :: '/' :: '/' :: (a.render.toList ++ d :: back)) :
    ∃ u, parse text = .ok u ∧ u.scheme = scheme ∧
      (∃ a', u.authority = some a' ∧ a'.host = some host ∧
        a'.port = if a.port = defaultPort? scheme then none else a.port) ∧
      (IsKeptEnd (d :: back) →
        u.path = .segments (parsePath .special ((d :: back).takeWhile (!isMark ·))) ∧
          (u.IsBare ↔ ∀ c ∈ d :: back, isMark c = false)) := by
  obtain ⟨hkind, hname, -, hhead, hlower⟩ := webScheme_spec hweb
  rw [List.forall_iff_forall_mem] at hname
  have hplain := isPlain_of_mem_render ha hhost huser
  have hne : a.render.toList ≠ [] := by
    rw [render_eq ha]
    simp [Host.render_ne_nil_of_isStable hhost]
  obtain ⟨back', hsig, hwhole⟩ := significant_of_authority hweb hplain hd htext
  have hparse :=
    parse_special (splitScheme?_eq_some_iff.mpr ⟨scheme.toList, hsig, hname, hhead, hlower⟩) hkind
  obtain ⟨a', hread, -, ha'⟩ := parseAuthority_render ha hhost scheme
  rw [authorityText_of_isPlain hne hplain hd, hread] at hparse
  have hu := isFinished_finish scheme ('/' :: '/' :: (a.render.toList ++ d :: back')) (a', [])
  refine ⟨_, hparse, hu.scheme, ⟨a', hu.authority, ha'⟩, fun hend => ?_⟩
  rw [hwhole hend] at hu ⊢
  obtain ⟨htext, hmarks⟩ := pathText_of_isPlain hne hplain hd
  have hpath := hu.path
  rw [htext, List.nil_append] at hpath
  exact ⟨hpath, hu.isBare.trans hmarks⟩

end FlowAudit.Url
