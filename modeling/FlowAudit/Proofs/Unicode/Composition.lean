import Mathlib.Data.List.Basic
import FlowAudit.Unicode.Composition

/-!
# Composition keeps controls and blanks

No character is put together from a control or a blank of ASCII: the decompositions name none of
them (`not_low_of_composite?`). So `compose` keeps every one of them (`mem_compose`), whatever
stands around it.
-/

namespace FlowAudit.Unicode

/-- Whether a character is a control of ASCII other than the last one, or the blank. -/
def IsLow (c : Char) : Prop :=
  c.toNat ≤ 0x20

instance (c : Char) : Decidable (IsLow c) :=
  inferInstanceAs (Decidable (c.toNat ≤ 0x20))

/-- What holds of each of the few numbers holds of each of the characters. -/
theorem IsLow.of_forall {p : Char → Prop} (h : ∀ n ≤ 0x20, p (Char.ofNat n)) {c : Char}
    (hc : IsLow c) : p c := by
  have hchar := h c.toNat hc
  rwa [Char.ofNat_toNat] at hchar

/-! ### The decompositions -/

namespace Runs

/-- The tags that a line gives. -/
def lineTags (line : List Char) : Array (List Char) :=
  (({} : Reading).addAll [] line).tags

theorem Reading.tags_addAll (r : Reading) (pending line : List Char) :
    (r.addAll pending line).tags = r.tags ++ (({} : Reading).addAll pending line).tags := by
  induction line generalizing r pending with
  | nil => simp [addAll, add]
  | cons c line ih =>
    by_cases hc : c = ' '
    · subst hc
      rw [addAll, addAll, ih, ih ((({} : Reading).add pending.reverse)), ← Array.append_assoc]
      simp [add]
    · rw [addAll, addAll, ih] <;> exact hc

/-- The tags of runs are those that the lines of their text give. -/
theorem mem_tags_parse {lines : List String} {tag : List Char} (h : tag ∈ (parse lines).tags) :
    ∃ line ∈ lines, tag ∈ lineTags line.toList := by
  -- also behind the tags read so far
  suffices hfrom : ∀ r : Reading,
      tag ∈ (lines.foldl (fun r line => r.addAll [] line.toList) r).tags →
        tag ∈ r.tags ∨ ∃ line ∈ lines, tag ∈ lineTags line.toList from
    (hfrom {} h).resolve_left (Array.not_mem_empty tag)
  clear h
  induction lines with
  | nil => exact fun r h => .inl h
  | cons line lines ih =>
    intro r h
    obtain hmem | ⟨later, hlater, hmem⟩ := ih _ h
    · rw [Reading.tags_addAll, Array.mem_append] at hmem
      exact hmem.imp_right fun hmem => ⟨line, List.mem_cons_self, hmem⟩
    · exact .inr ⟨later, List.mem_cons_of_mem _ hlater, hmem⟩

end Runs

/-- A tag that composition goes back from names no control and no blank. -/
def IsPlainTag (tag : List Char) : Prop :=
  tag.head? = some 'C' → (charsOfTag tag).Forall (¬ IsLow ·)

instance (tag : List Char) : Decidable (IsPlainTag tag) :=
  inferInstanceAs (Decidable (_ → _))

theorem forall_literal {p : List Char → Prop} {cs : List Char} {lines : List String} (h : p cs)
    (hlines : ∀ line ∈ lines, p line.toList) :
    ∀ line ∈ String.ofList cs :: lines, p line.toList := by
  rw [List.forall_mem_cons, String.toList_ofList]
  exact ⟨h, hlines⟩

theorem isPlainTag_of_mem_lineTags :
    ∀ line ∈ decompositionText, ∀ tag ∈ Runs.lineTags line.toList, IsPlainTag tag := by
  simp only [decompositionText]
  repeat'
    refine forall_literal (p := fun line => ∀ tag ∈ Runs.lineTags line, IsPlainTag tag)
      (by decide +kernel) ?_
  exact List.forall_mem_nil _

/-! ### Putting together -/

/-- The numbers that pairs are found by are larger than those of controls and the blank. -/
theorem lt_of_compositions : ∀ (k : Nat × Nat) (d : Char),
    compositions[k]? = some d → 0x20 < k.1 ∧ 0x20 < k.2 := by
  have htags (run : Nat × List Char)
      (hrun : run ∈ decompositionRuns.starts.toList.zip decompositionRuns.tags.toList) :
      IsPlainTag run.2 := by
    have htag := Array.mem_toList_iff.mp (List.of_mem_zip hrun).2
    obtain ⟨line, hline, hmem⟩ := Runs.mem_tags_parse htag
    exact isPlainTag_of_mem_lineTags line hline run.2 hmem
  unfold compositions
  rw [← Array.foldl_toList, Array.toList_zip]
  generalize decompositionRuns.starts.toList.zip decompositionRuns.tags.toList = runs at htags
  -- every pair that is taken in is one of the characters of a tag
  refine List.foldlRecOn (motive := fun pairs : Std.HashMap (Nat × Nat) Char =>
    ∀ (k : Nat × Nat) (d : Char), pairs[k]? = some d → 0x20 < k.1 ∧ 0x20 < k.2) _ _ ?_ ?_
  · simp
  · rintro pairs hpairs ⟨start, tag⟩ hrun k d hd
    have hplain : IsPlainTag tag := htags _ hrun
    dsimp only at hd
    split at hd
    · split at hd
      · rename_i a b hchars
        rw [Std.HashMap.getElem?_insert] at hd
        split at hd
        · rename_i hkey
          obtain rfl : (a.toNat, b.toNat) = k := by simpa using hkey
          have hnot := hplain rfl
          rw [hchars] at hnot
          exact ⟨Nat.not_le.mp hnot.1, Nat.not_le.mp hnot.2⟩
        · exact hpairs k d hd
      · exact hpairs k d hd
    · exact hpairs k d hd

theorem lt_of_hangulSyllable? {a b d : Char} (h : hangulSyllable? a b = some d) :
    0x20 < a.toNat ∧ 0x20 < b.toNat := by
  unfold hangulSyllable? at h
  dsimp only at h
  have hlead : 0x20 < hangulLead := by decide
  have hvowel : 0x20 < hangulVowel := by decide
  have hbase : 0x20 < hangulBase := by decide
  have htrail : 0x20 < hangulTrail := by decide
  split at h
  · omega
  · split at h
    · omega
    · cases h

/-- Neither of two characters that can be put together is a control or a blank. -/
theorem not_low_of_composite? {a b d : Char} (h : composite? a b = some d) :
    ¬ IsLow a ∧ ¬ IsLow b := by
  rw [IsLow, IsLow, Nat.not_le, Nat.not_le]
  unfold composite? at h
  split at h
  · rename_i hsyllable
    exact lt_of_hangulSyllable? hsyllable
  · exact lt_of_compositions _ _ h

variable {c : Char} (hc : IsLow c)
include hc

theorem mem_composeFrom {start : Char} {marks s : List Char}
    (h : c = start ∨ c ∈ marks ∨ c ∈ s) : c ∈ composeFrom start marks s := by
  induction s generalizing start marks with
  | nil => simpa [composeFrom] using h
  | cons e s ih =>
    rw [List.mem_cons] at h
    unfold composeFrom
    dsimp only
    split
    · -- neither of the two characters that are put together is `c`
      rename_i d hd
      have hcomposite : composite? start e = some d := (Option.ite_none_right_eq_some.mp hd).2
      refine ih (.inr ?_)
      rcases h with rfl | hmarks | rfl | hs
      · exact absurd hc (not_low_of_composite? hcomposite).1
      · exact .inl hmarks
      · exact absurd hc (not_low_of_composite? hcomposite).2
      · exact .inr hs
    · split
      · rw [List.cons_append, List.mem_cons, List.mem_append, List.mem_reverse]
        rcases h with rfl | hmarks | rfl | hs
        · exact .inl rfl
        · exact .inr (.inl hmarks)
        · exact .inr (.inr (ih (.inl rfl)))
        · exact .inr (.inr (ih (.inr (.inr hs))))
      · refine ih ?_
        rw [List.mem_cons, or_comm (a := c = e)]
        simpa only [or_assoc] using h

omit hc in
theorem mem_orderMarks {marks s : List Char} (h : c ∈ marks ∨ c ∈ s) : c ∈ orderMarks marks s := by
  induction s generalizing marks with
  | nil => simpa [orderMarks] using h
  | cons e s ih =>
    rw [List.mem_cons] at h
    rw [orderMarks]
    split
    · rw [List.mem_append, List.mem_mergeSort, List.mem_cons]
      rcases h with hmarks | rfl | hs
      · exact .inl hmarks
      · exact .inr (.inl rfl)
      · exact .inr (.inr (ih (.inr hs)))
    · refine ih ?_
      rw [List.mem_append, List.mem_singleton]
      exact or_assoc.mpr h

/-- A control or a blank is taken apart in no case. -/
theorem decomposeChar_of_low : decomposeChar maxDecompositions c = [c] :=
  hc.of_forall (p := fun c => decomposeChar maxDecompositions c = [c]) (by decide +kernel)

/-- A control or a blank of a text is one of its composed form. -/
theorem mem_compose {s : List Char} (h : c ∈ s) : c ∈ compose s := by
  have happart : c ∈ s.flatMap (decomposeChar maxDecompositions) :=
    List.mem_flatMap.mpr ⟨c, h, by rw [decomposeChar_of_low hc]; exact List.mem_singleton_self c⟩
  have hordered : c ∈ decompose s := mem_orderMarks (.inr happart)
  unfold compose
  split
  · exact h
  · cases hs : decompose s with
    | nil =>
      rw [hs] at hordered
      cases hordered
    | cons e rest =>
      rw [hs, List.mem_cons] at hordered
      exact mem_composeFrom hc (hordered.imp_right .inr)

end FlowAudit.Unicode
