import FlowAudit.Proofs.Url.Percent
import FlowAudit.Proofs.Url.Scheme

/-!
# Paths read back

A path that was read is made of segments that stand for themselves (`isStep_of_mem_parsePath`), and
segments that do are read, each behind a slash, as they are written (`parsePath_slashed`). Slashes
at the end of a path only put empty segments there (`parsePath_append_slashes`).
-/

namespace FlowAudit.Url

/-! ### Dots in encoded segments -/

/-- Only a percent sign starts an encoded dot. -/
theorem decodeDots_cons {c : Char} {s : List Char}
    (h : ¬ (c = '%' ∧ ∃ d t, s = '2' :: d :: t ∧ (d = 'e' ∨ d = 'E'))) :
    decodeDots (c :: s) = c :: decodeDots s := by
  rw [decodeDots]
  · rintro t rfl rfl
    exact h ⟨rfl, 'e', t, rfl, .inl rfl⟩
  · rintro t rfl rfl
    exact h ⟨rfl, 'E', t, rfl, .inr rfl⟩

/-- An encoded octet is no encoded dot, unless it is that of the dot. -/
theorem decodeDots_encodeOctet {o : UInt8} (ho : o ≠ '.'.toUInt8) (s : List Char) :
    decodeDots (encodeOctet o ++ s) = encodeOctet o ++ decodeDots s := by
  have hdigits : ∀ high < 16, ∀ low < 16, (Text.digitChar high).toUpper ≠ '%' ∧
      (Text.digitChar low).toUpper ≠ '%' ∧ ((Text.digitChar high).toUpper = '2' ∧
        ((Text.digitChar low).toUpper = 'e' ∨ (Text.digitChar low).toUpper = 'E') →
          16 * high + low = 0x2E) := by
    decide
  have ho' := o.toNat_lt
  obtain ⟨hhigh, hlow, hdot⟩ := hdigits (o.toNat / 16) (by omega) (o.toNat % 16) (by omega)
  have htext : encodeOctet o = ['%', (Text.digitChar (o.toNat / 16)).toUpper,
      (Text.digitChar (o.toNat % 16)).toUpper] :=
    congrArg ('%' :: ·) (Text.capitals_two ho')
  rw [htext, List.cons_append, List.cons_append, List.singleton_append, decodeDots_cons,
    decodeDots_cons (fun h => hhigh h.1), decodeDots_cons (fun h => hlow h.1)]
  · rfl
  · rintro ⟨-, d, t, heq, hd⟩
    obtain ⟨htwo, heq⟩ := List.cons.inj heq
    obtain ⟨rfl, -⟩ := List.cons.inj heq
    have hvalue := hdot ⟨htwo, hd⟩
    exact ho (UInt8.toNat_inj.mp (by rw [← Nat.div_add_mod o.toNat 16, hvalue]; rfl))

theorem decodeDots_encodeChar {c : Char} (hc : inPath c = true) (s : List Char) :
    decodeDots (encodeChar inPath c ++ s) = encodeChar inPath c ++ decodeDots s := by
  have hdot : ∀ o ∈ String.utf8EncodeChar c, o ≠ '.'.toUInt8 := by
    rintro o ho rfl
    rw [← eq_of_mem_utf8EncodeChar (by decide) ho] at hc
    cases hc
  rw [encodeChar, if_pos hc]
  generalize String.utf8EncodeChar c = os at hdot
  induction os with
  | nil => rfl
  | cons o os ih =>
    rw [List.forall_mem_cons] at hdot
    rw [List.flatMap_cons, List.append_assoc, decodeDots_encodeOctet hdot.1, ih hdot.2,
      List.append_assoc]

/-- Dots are decoded in an encoded segment as they are before it is encoded. -/
theorem decodeDots_encode (s : List Char) :
    decodeDots (encode inPath s) = encode inPath (decodeDots s) := by
  have hcons {c : Char} (hc : inPath c = false) (t : List Char) :
      encode inPath (c :: t) = c :: encode inPath t := by
    rw [encode, List.flatMap_cons, encodeChar, if_neg (by simp [hc])]
    rfl
  induction s using decodeDots.induct with
  | case1 rest ih =>
    rw [hcons (by decide), hcons (by decide), hcons (by decide), decodeDots, decodeDots, ih,
      hcons (by decide)]
  | case2 rest ih =>
    rw [hcons (by decide), hcons (by decide), hcons (by decide), decodeDots, decodeDots, ih,
      hcons (by decide)]
  | case3 c rest hsmall hcapital ih =>
    have hnot : ¬ (c = '%' ∧ ∃ d t, rest = '2' :: d :: t ∧ (d = 'e' ∨ d = 'E')) := by
      rintro ⟨rfl, d, t, rfl, rfl | rfl⟩
      · exact hsmall t rfl rfl
      · exact hcapital t rfl rfl
    rw [decodeDots_cons hnot]
    cases hc : inPath c with
    | true =>
      rw [encode, List.flatMap_cons, decodeDots_encodeChar hc, ← encode, ih, encode, encode,
        List.flatMap_cons]
    | false =>
      rw [hcons hc, hcons hc, decodeDots_cons, ih]
      -- what follows is not encoded either
      rintro ⟨rfl, d, t, heq, hd⟩
      obtain ⟨rest', rfl, heq'⟩ := exists_of_encode_eq_cons (by decide) heq
      have hpercent : d ≠ '%' := by
        rcases hd with rfl | rfl <;> decide
      obtain ⟨rest'', rfl, -⟩ := exists_of_encode_eq_cons hpercent heq'
      exact hnot ⟨rfl, d, rest'', rfl, hd⟩
  | case4 => rfl

theorem isSingleDot_encode (s : List Char) : isSingleDot (encode inPath s) = isSingleDot s := by
  rw [isSingleDot, isSingleDot, decodeDots_encode]
  refine decide_eq_decide.mpr ⟨fun h => ?_, fun h => by rw [h]; decide⟩
  obtain ⟨s', hs, hnil⟩ := exists_of_encode_eq_cons (by decide) h
  rw [hs, eq_nil_of_encode_eq_nil hnil]

theorem isDoubleDot_encode (s : List Char) : isDoubleDot (encode inPath s) = isDoubleDot s := by
  rw [isDoubleDot, isDoubleDot, decodeDots_encode]
  refine decide_eq_decide.mpr ⟨fun h => ?_, fun h => by rw [h]; decide⟩
  obtain ⟨s', hs, hrest⟩ := exists_of_encode_eq_cons (by decide) h
  obtain ⟨s'', hs', hnil⟩ := exists_of_encode_eq_cons (by decide) hrest
  rw [hs, hs', eq_nil_of_encode_eq_nil hnil]

/-! ### Segments -/

theorem segmentsFrom_append {special : Bool} {front : List Char} {slash : Char}
    (hfront : ∀ c ∈ front, isSlash special c = false) (hslash : isSlash special slash = true)
    (pending rest : List Char) :
    segmentsFrom special pending (front ++ slash :: rest) =
      (pending.reverse ++ front) :: segmentsFrom special [] rest := by
  induction front generalizing pending with
  | nil => rw [List.nil_append, segmentsFrom, if_pos hslash, List.append_nil]
  | cons c front ih =>
    rw [List.forall_mem_cons] at hfront
    rw [List.cons_append, segmentsFrom, if_neg (by simp [hfront.1]), ih hfront.2,
      List.reverse_cons, List.append_assoc]
    rfl

theorem segmentsFrom_of_forall {special : Bool} {s : List Char}
    (hs : ∀ c ∈ s, isSlash special c = false) (pending : List Char) :
    segmentsFrom special pending s = [pending.reverse ++ s] := by
  induction s generalizing pending with
  | nil => rw [segmentsFrom, List.append_nil]
  | cons c s ih =>
    rw [List.forall_mem_cons] at hs
    rw [segmentsFrom, if_neg (by simp [hs.1]), ih hs.2, List.reverse_cons, List.append_assoc]
    rfl

theorem segmentsFrom_ne_nil (special : Bool) (pending s : List Char) :
    segmentsFrom special pending s ≠ [] := by
  induction s generalizing pending with
  | nil => exact List.cons_ne_nil _ _
  | cons c s ih =>
    rw [segmentsFrom]
    split
    · exact List.cons_ne_nil _ _
    · exact ih _

/-- No part between slashes holds a slash. -/
theorem isSlash_of_mem_segmentsFrom {special : Bool} {pending s t : List Char}
    (hpending : ∀ c ∈ pending, isSlash special c = false)
    (ht : t ∈ segmentsFrom special pending s) :
    ∀ c ∈ t, isSlash special c = false := by
  induction s generalizing pending with
  | nil =>
    rw [segmentsFrom, List.mem_singleton] at ht
    rw [ht]
    simpa using hpending
  | cons c s ih =>
    rw [segmentsFrom] at ht
    split at ht
    · rcases List.mem_cons.mp ht with rfl | ht
      · simpa using hpending
      · exact ih (List.forall_mem_nil _) ht
    · rename_i hc
      exact ih (List.forall_mem_cons.mpr ⟨by simpa using hc, hpending⟩) ht

/-- Slashes at the end are followed by empty parts. -/
theorem segmentsFrom_append_replicate {special : Bool} (pending s : List Char) (k : Nat) :
    segmentsFrom special pending (s ++ List.replicate k '/') =
      segmentsFrom special pending s ++ List.replicate k [] := by
  have hslash : isSlash special '/' = true := by simp [isSlash]
  have hslashes (pending : List Char) (k : Nat) :
      segmentsFrom special pending (List.replicate k '/') =
        pending.reverse :: List.replicate k [] := by
    induction k generalizing pending with
    | zero => rfl
    | succ k ih =>
      rw [List.replicate_succ, segmentsFrom, if_pos hslash, ih, List.replicate_succ]
      rfl
  induction s generalizing pending with
  | nil => exact hslashes pending k
  | cons c s ih =>
    rw [List.cons_append, segmentsFrom, segmentsFrom]
    split
    · rw [ih, List.cons_append]
    · exact ih _

/-! ### Steps -/

/-- Whether a segment stands for itself under special schemes. -/
structure IsStep (s : List Char) : Prop where
  isSingleDot : isSingleDot s = false
  isDoubleDot : isDoubleDot s = false
  isSlash : ∀ c ∈ s, isSlash true c = false

theorem isStep_nil : IsStep [] :=
  ⟨by decide, by decide, List.forall_mem_nil _⟩

/-- What one segment makes of those that are done, which are in reverse. -/
def stepOver (done : List String) (s : List Char) (last : Bool) : List String :=
  if isDoubleDot s then if last then "" :: done.tail else done.tail
  else if isSingleDot s then if last then "" :: done else done
  else String.ofList (encode inPath s) :: done

theorem resolve_cons (done : List String) (s : List Char) (rest : List (List Char)) :
    resolve false done (s :: rest) = resolve false (stepOver done s rest.isEmpty) rest := by
  have hback : stepBack false done = done.tail := by
    rcases done with _ | ⟨drive, _ | ⟨name, done⟩⟩ <;> rfl
  have hadd : addSegment false done s = String.ofList (encode inPath s) :: done := by
    rw [addSegment]
    split
    · rw [Bool.false_and, Bool.false_and, if_neg Bool.false_ne_true]
    · rfl
  rw [resolve, hback, hadd, stepOver]

theorem resolve_of_isStep {segments : List (List Char)} (h : ∀ s ∈ segments, IsStep s)
    (done : List String) :
    resolve false done segments =
      done.reverse ++ segments.map fun s => String.ofList (encode inPath s) := by
  induction segments generalizing done with
  | nil => rw [resolve, List.map_nil, List.append_nil]
  | cons s segments ih =>
    rw [List.forall_mem_cons] at h
    rw [resolve_cons, stepOver, h.1.isDoubleDot, h.1.isSingleDot, if_neg Bool.false_ne_true,
      if_neg Bool.false_ne_true, ih h.2, List.reverse_cons, List.append_assoc, List.map_cons]
    rfl

/-- A segment that was resolved is empty, or an encoded one that is no dots. -/
theorem mem_resolve {done : List String} {segments : List (List Char)} {name : String}
    (h : name ∈ resolve false done segments) :
    name ∈ done ∨ name = "" ∨ ∃ s ∈ segments, isSingleDot s = false ∧ isDoubleDot s = false ∧
      name = String.ofList (encode inPath s) := by
  induction segments generalizing done with
  | nil =>
    rw [resolve, List.mem_reverse] at h
    exact .inl h
  | cons s segments ih =>
    rw [resolve_cons] at h
    rcases ih h with hdone | hempty | ⟨t, ht, hread⟩
    · have hstep : name ∈ done ∨ name = "" ∨ isSingleDot s = false ∧ isDoubleDot s = false ∧
          name = String.ofList (encode inPath s) := by
        unfold stepOver at hdone
        split at hdone
        · split at hdone
          · rcases List.mem_cons.mp hdone with rfl | hdone
            · exact .inr (.inl rfl)
            · exact .inl (List.mem_of_mem_tail hdone)
          · exact .inl (List.mem_of_mem_tail hdone)
        · rename_i hdouble
          split at hdone
          · split at hdone
            · exact (List.mem_cons.mp hdone).symm.imp_right .inl
            · exact .inl hdone
          · rename_i hsingle
            rcases List.mem_cons.mp hdone with rfl | hdone
            · exact .inr (.inr ⟨by simpa using hsingle, by simpa using hdouble, rfl⟩)
            · exact .inl hdone
      exact hstep.imp_right (.imp_right fun hs => ⟨s, List.mem_cons_self, hs⟩)
    · exact .inr (.inl hempty)
    · exact .inr (.inr ⟨t, List.mem_cons_of_mem s ht, hread⟩)

/-! ### Paths -/

theorem parseSegments_special (s : List Char) :
    parseSegments .special s = resolve false [] (segmentsFrom true [] s) := rfl

theorem parsePath_cons {c : Char} (hc : isSlash true c = true) (s : List Char) :
    parsePath .special (c :: s) = parseSegments .special s := by
  rw [parsePath]
  exact if_pos hc

theorem parsePath_special (s : List Char) :
    ∃ t, parsePath .special s = resolve false [] (segmentsFrom true [] t) ∧
      ∀ k, s ≠ [] → parsePath .special (s ++ List.replicate k '/') =
        resolve false [] (segmentsFrom true [] (t ++ List.replicate k '/')) := by
  cases s with
  | nil => exact ⟨[], rfl, fun _ hne => absurd rfl hne⟩
  | cons c s =>
    cases hc : isSlash true c with
    | true => exact ⟨s, parsePath_cons hc s, fun k _ => parsePath_cons hc _⟩
    | false =>
      have hpath (s : List Char) :
          parsePath .special (c :: s) = parseSegments .special (c :: s) := by
        rw [parsePath]
        exact if_neg (by simp [hc])
      exact ⟨c :: s, hpath s, fun k _ => hpath (s ++ List.replicate k '/')⟩

/-- The segments of a path that was read stand for themselves, and are encoded. -/
theorem isStep_of_mem_parsePath {s : List Char} {name : String}
    (h : name ∈ parsePath .special s) :
    IsStep name.toList ∧ encode inPath name.toList = name.toList := by
  obtain ⟨t, ht, -⟩ := parsePath_special s
  rw [ht] at h
  rcases mem_resolve h with hnone | rfl | ⟨segment, hsegment, hsingle, hdouble, rfl⟩
  · cases hnone
  · exact ⟨isStep_nil, rfl⟩
  · rw [String.toList_ofList]
    refine ⟨⟨?_, ?_, fun c hc => ?_⟩, encode_encode (by decide)⟩
    · rw [isSingleDot_encode, hsingle]
    · rw [isDoubleDot_encode, hdouble]
    · rcases mem_encode hc with ⟨hc, -⟩ | hc
      · exact isSlash_of_mem_segmentsFrom (List.forall_mem_nil _) hsegment c hc
      · have hchars : encodingChars.Forall (isSlash true · = false) := by decide
        exact List.forall_iff_forall_mem.mp hchars c hc

/-- The text of segments, each behind a slash. -/
def slashed (segments : List (List Char)) : List Char :=
  segments.flatMap ('/' :: ·)

/-- Segments that stand for themselves are read as they are written. -/
theorem parsePath_slashed {segments : List (List Char)} (hne : segments ≠ [])
    (h : ∀ s ∈ segments, IsStep s) :
    parsePath .special (slashed segments) =
      segments.map fun s => String.ofList (encode inPath s) := by
  have hslash : isSlash true '/' = true := by decide
  have hsegments : ∀ {segments : List (List Char)}, segments ≠ [] → (∀ s ∈ segments, IsStep s) →
      ∃ rest, slashed segments = '/' :: rest ∧ segmentsFrom true [] rest = segments := by
    intro segments
    induction segments with
    | nil => exact fun hne => absurd rfl hne
    | cons s segments ih =>
      intro _ h
      rw [List.forall_mem_cons] at h
      cases segments with
      | nil =>
        refine ⟨s, by simp [slashed], ?_⟩
        rw [segmentsFrom_of_forall h.1.isSlash]
        rfl
      | cons s' segments =>
        obtain ⟨rest, hrest, hread⟩ := ih (List.cons_ne_nil _ _) h.2
        refine ⟨s ++ '/' :: rest, ?_, ?_⟩
        · rw [← hrest]
          simp [slashed]
        · rw [segmentsFrom_append h.1.isSlash hslash, hread]
          rfl
  obtain ⟨rest, hrest, hread⟩ := hsegments hne h
  rw [hrest, parsePath_cons hslash, parseSegments_special, hread, resolve_of_isStep h]
  rfl

/-! ### Slashes at the end -/

theorem rdropWhile_append_of_forall {α : Type} {p : α → Bool} {back : List α}
    (hback : ∀ x ∈ back, p x = true) (front : List α) :
    (front ++ back).rdropWhile p = front.rdropWhile p := by
  rw [List.rdropWhile, List.rdropWhile, List.reverse_append,
    List.dropWhile_append_of_pos fun x hx => hback x (List.mem_reverse.mp hx)]

/-- Empty segments behind the last one make no other difference. -/
theorem resolve_append_replicate {segments : List (List Char)} (hne : segments ≠ [])
    (done : List String) (k : Nat) :
    (resolve false done (segments ++ List.replicate k [])).rdropWhile (· = "") =
      (resolve false done segments).rdropWhile (· = "") := by
  cases k with
  | zero => rw [List.replicate_zero, List.append_nil]
  | succ k =>
    have hempty : ∀ name ∈ List.replicate (k + 1) "", decide (name = "") = true := fun name h =>
      decide_eq_true (List.eq_of_mem_replicate h)
    have hslashes (done : List String) :
        resolve false done (List.replicate (k + 1) []) =
          done.reverse ++ List.replicate (k + 1) "" := by
      rw [resolve_of_isStep fun s hs => List.eq_of_mem_replicate hs ▸ isStep_nil,
        List.map_replicate]
      rfl
    induction segments generalizing done with
    | nil => exact absurd rfl hne
    | cons s segments ih =>
      cases segments with
      | cons s' segments =>
        rw [List.cons_append, resolve_cons, resolve_cons]
        exact ih (List.cons_ne_nil _ _) _
      | nil =>
        -- dots leave an empty segment only at the end, where the slashes leave more of them
        have hmore : (List.replicate (k + 1) ([] : List Char)).isEmpty = false := rfl
        have hlast : ([] : List (List Char)).isEmpty = true := rfl
        rw [List.singleton_append, resolve_cons, resolve_cons, hslashes, resolve,
          rdropWhile_append_of_forall hempty, hmore, hlast, stepOver, stepOver]
        split
        · rw [if_pos rfl, if_neg Bool.false_ne_true, List.reverse_cons,
            List.rdropWhile_concat_pos _ _ _ (by simp)]
        · split
          · rw [if_pos rfl, if_neg Bool.false_ne_true, List.reverse_cons,
              List.rdropWhile_concat_pos _ _ _ (by simp)]
          · rfl

/-- Slashes at the end of a path only put empty segments there. -/
theorem parsePath_append_slashes (s : List Char) (k : Nat) :
    (parsePath .special (s ++ List.replicate k '/')).rdropWhile (· = "") =
      (parsePath .special s).rdropWhile (· = "") := by
  by_cases hs : s = []
  · subst hs
    cases k with
    | zero => rfl
    | succ k =>
      have hpath : parsePath .special ([] ++ List.replicate (k + 1) '/') =
          parseSegments .special ([] ++ List.replicate k '/') := parsePath_cons (by decide) _
      rw [hpath, parseSegments_special, segmentsFrom_append_replicate,
        resolve_append_replicate (segmentsFrom_ne_nil _ _ _)]
      rfl
  · obtain ⟨t, ht, hmore⟩ := parsePath_special s
    rw [hmore k hs, ht, segmentsFrom_append_replicate,
      resolve_append_replicate (segmentsFrom_ne_nil _ _ _)]

/-- Slashes at the end of a text are those in front of empty segments. -/
theorem rdropWhile_slashed {segments : List (List Char)} (h : ∀ s ∈ segments, '/' ∉ s) :
    (slashed segments).rdropWhile (· = '/') = slashed (segments.rdropWhile (· = [])) := by
  induction segments using List.reverseRecOn with
  | nil => rfl
  | append_singleton segments s ih =>
    rw [List.forall_mem_append, List.forall_mem_singleton] at h
    have hlast : slashed (segments ++ [s]) = slashed segments ++ '/' :: s := by simp [slashed]
    obtain rfl | ⟨front, e, hs⟩ := List.eq_nil_or_concat s
    · rw [hlast, List.rdropWhile_concat_pos _ _ _ (by simp),
        List.rdropWhile_concat_pos _ _ _ (by simp), ih h.1]
    · rw [List.concat_eq_append] at hs
      subst hs
      have he : decide (e = '/') = false := by
        rw [decide_eq_false_iff_not]
        rintro rfl
        exact h.2 (by simp)
      have hkeep : (segments ++ [front ++ [e]]).rdropWhile (· = []) = segments ++ [front ++ [e]] :=
        List.rdropWhile_concat_neg _ _ _ (by simp)
      have hdrop := @rdropWhile_append_cons _ (fun c => decide (c = '/')) e he
        (slashed segments ++ '/' :: front) []
      rw [hkeep, hlast]
      simpa using hdrop

end FlowAudit.Url
