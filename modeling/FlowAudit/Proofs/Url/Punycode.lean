import Mathlib.Data.List.TakeWhile
import Mathlib.Tactic.Ring
import FlowAudit.Url.Punycode

/-!
# Punycode read back

Every text is read back from its Punycode (`Punycode.decode?_encode`). While it is written, the
numbers written so far are read as the part of the text that is known by then: the characters below
the one that is being inserted, and this one as far as the places have been gone through (`known`).
The steps since the last number lead from the place behind it to the place that is gone through now
(`Tracks`), and so one place after the other keeps this (`Tracks.pass`).
-/

namespace FlowAudit.Punycode

/-! ### Numbers -/

theorem digitValue?_digit {n : Nat} (hn : n < 36) : digitValue? (digit n) = some n := by
  revert n
  decide

/-- A number is read as it was written, whatever follows it. -/
theorem readNumber?_writeNumber (bias index weight value n : Nat) (rest : List Char) :
    readNumber? bias index weight value (writeNumber bias index n ++ rest) =
      some (value + n * weight, rest) := by
  induction n using Nat.strong_induction_on generalizing index weight value with
  | _ n ih =>
    have hlow := one_le_threshold bias index
    have hhigh := threshold_le bias index
    rw [writeNumber]
    generalize ht : threshold bias index = t at hlow hhigh
    split
    · rename_i hlast
      rw [List.singleton_append, readNumber?, digitValue?_digit (by omega)]
      dsimp only
      rw [ht, if_pos hlast]
    · rename_i hmore
      have hdigit : t + (n - t) % (36 - t) < 36 := by
        have hmod := Nat.mod_lt (n - t) (by omega : 36 - t > 0)
        omega
      have hsmaller : (n - t) / (36 - t) < n := by
        have hle := Nat.div_le_self (n - t) (36 - t)
        omega
      -- the digit and the number behind it are the number again
      have hvalue : value + (t + (n - t) % (36 - t)) * weight +
          (n - t) / (36 - t) * (weight * (36 - t)) = value + n * weight := by
        have hparts : n = t + (n - t) % (36 - t) + (n - t) / (36 - t) * (36 - t) := by
          rw [Nat.add_assoc, Nat.mod_add_div']
          omega
        calc
          _ = value + (t + (n - t) % (36 - t) + (n - t) / (36 - t) * (36 - t)) * weight := by ring
          _ = value + n * weight := by rw [← hparts]
      rw [List.cons_append, readNumber?, digitValue?_digit hdigit]
      dsimp only
      rw [ht, if_neg (by omega), ih _ hsmaller, hvalue]

/-- What holds of all digits holds of the characters of a number. -/
theorem of_mem_writeNumber {p : Char → Prop} (h : ∀ n < 36, p (digit n)) {bias index n : Nat}
    {c : Char} (hc : c ∈ writeNumber bias index n) : p c := by
  induction n using Nat.strong_induction_on generalizing index with
  | _ n ih =>
    have hlow := one_le_threshold bias index
    have hhigh := threshold_le bias index
    rw [writeNumber] at hc
    split at hc
    · rw [List.mem_singleton.mp hc]
      exact h n (by omega)
    · rcases List.mem_cons.mp hc with rfl | hc
      · have hmod := Nat.mod_lt (n - threshold bias index)
          (by omega : 36 - threshold bias index > 0)
        exact h _ (by omega)
      · have hle := Nat.div_le_self (n - threshold bias index) (36 - threshold bias index)
        exact ih _ (by omega) hc

/-! ### Insertions -/

theorem insertAll?_nil (text : List Char) (code place bias : Nat) :
    insertAll? text code place bias [] = some text := by
  rw [insertAll?, if_pos rfl]

/-- The number in front says where the next character is inserted, and which. -/
theorem insertAll?_of_readNumber? {s rest : List Char} {bias steps : Nat}
    (h : readNumber? bias 0 1 0 s = some (steps, rest)) (text : List Char) (code place : Nat) :
    insertAll? text code place bias s =
      if code + (place + steps) / (text.length + 1) > 0x10FFFF ∨
          (0xD800 ≤ code + (place + steps) / (text.length + 1) ∧
            code + (place + steps) / (text.length + 1) ≤ 0xDFFF) then none
      else
        insertAll? (text.take ((place + steps) % (text.length + 1)) ++
            Char.ofNat (code + (place + steps) / (text.length + 1)) ::
              text.drop ((place + steps) % (text.length + 1)))
          (code + (place + steps) / (text.length + 1)) ((place + steps) % (text.length + 1) + 1)
          (adapt steps (text.length + 1) (place = 0)) rest := by
  have hne : s ≠ [] := by
    rintro rfl
    cases h
  rw [insertAll?, if_neg hne]
  split
  · rename_i hnone
    rw [h] at hnone
    cases hnone
  · rename_i steps' rest' hsome
    rw [h] at hsome
    obtain ⟨rfl, rfl⟩ := Prod.mk.inj (Option.some.inj hsome)
    rfl

theorem insertAll?_of_eq_none {s : List Char} {bias : Nat} (hne : s ≠ [])
    (h : readNumber? bias 0 1 0 s = none) (text : List Char) (code place : Nat) :
    insertAll? text code place bias s = none := by
  rw [insertAll?, if_neg hne]
  split
  · rfl
  · rename_i hsome
    rw [h] at hsome
    cases hsome

/-- What is known of a text while the character with number `m` is inserted, when the places of
`front` have been gone through and those of `back` have not. -/
def known (m : Nat) (front back : List Char) : List Char :=
  front.filter (·.toNat ≤ m) ++ back.filter (·.toNat < m)

/-- A number is read as the insertion of a character. -/
theorem insertAll?_writeNumber {text rest : List Char} {code place bias steps next : Nat} {c : Char}
    (hcode : code ≤ c.toNat) (hnext : next ≤ text.length)
    (hsteps : place + steps = (c.toNat - code) * (text.length + 1) + next) :
    insertAll? text code place bias (writeNumber bias 0 steps ++ rest) =
      insertAll? (text.take next ++ c :: text.drop next) c.toNat (next + 1)
        (adapt steps (text.length + 1) (place = 0)) rest := by
  have hread := readNumber?_writeNumber bias 0 1 0 steps rest
  rw [Nat.zero_add, Nat.mul_one] at hread
  have hdiv : code + (place + steps) / (text.length + 1) = c.toNat := by
    rw [hsteps, Nat.mul_comm, Nat.mul_add_div (by omega), Nat.div_eq_of_lt (by omega)]
    omega
  have hmod : (place + steps) % (text.length + 1) = next := by
    rw [hsteps, Nat.mul_comm, Nat.mul_add_mod, Nat.mod_eq_of_lt (by omega)]
  have hvalid : ¬ (c.toNat > 0x10FFFF ∨ (0xD800 ≤ c.toNat ∧ c.toNat ≤ 0xDFFF)) := by
    have hc := c.valid
    rw [UInt32.isValidChar, Nat.isValidChar] at hc
    change c.toNat < _ ∨ _ < c.toNat ∧ c.toNat < _ at hc
    omega
  rw [insertAll?_of_readNumber? hread, hdiv, hmod, if_neg hvalid, Char.ofNat_toNat]

/-- While the character with number `m` is inserted and the places of `front` have been gone
through, what is written is read as what is known by then: `last` is the number of the character
that was inserted last, and `place` the place behind it. -/
structure Tracks (basic : List Char) (w : Writing) (m : Nat) (front back : List Char)
    (last place : Nat) : Prop where
  insertAll?_append : ∀ rest, insertAll? basic firstCode 0 initialBias (w.written ++ rest) =
    insertAll? (known m front back) last place w.bias rest
  length_eq : w.length = (known m front back).length
  basic_le : basic.length ≤ w.length
  first_iff : place = 0 ↔ w.length = basic.length
  last_le : last ≤ m
  steps_eq : place + w.steps =
    (m - last) * (w.length + 1) + (front.filter (·.toNat ≤ m)).length

namespace Tracks

variable {basic front back text : List Char} {w : Writing} {m last place : Nat} {c : Char}

/-- One more place is gone through, at which the character is known already. -/
theorem pass_of_lt (h : Tracks basic w m front (c :: back) last place) (hlt : c.toNat < m) :
    Tracks basic (w.pass basic.length m c) m (front ++ [c]) back last place := by
  have hknown : known m (front ++ [c]) back = known m front (c :: back) := by
    simp [known, hlt, Nat.le_of_lt hlt]
  have hfront : ((front ++ [c]).filter (·.toNat ≤ m)).length =
      (front.filter (·.toNat ≤ m)).length + 1 := by
    simp [Nat.le_of_lt hlt]
  rw [Writing.pass, if_pos hlt]
  refine ⟨?_, ?_, h.basic_le, h.first_iff, h.last_le, ?_⟩
  · rw [hknown]
    exact h.insertAll?_append
  · rw [hknown]
    exact h.length_eq
  · rw [hfront, ← Nat.add_assoc, ← Nat.add_assoc, h.steps_eq]

/-- One more place is gone through, at which the character comes later. -/
theorem pass_of_gt (h : Tracks basic w m front (c :: back) last place) (hgt : m < c.toNat) :
    Tracks basic (w.pass basic.length m c) m (front ++ [c]) back last place := by
  have hlow : ¬ c.toNat ≤ m := Nat.not_le.mpr hgt
  have hknown : known m (front ++ [c]) back = known m front (c :: back) := by
    simp [known, hlow, Nat.le_of_lt hgt]
  have hfront : (front ++ [c]).filter (·.toNat ≤ m) = front.filter (·.toNat ≤ m) := by
    simp [hlow]
  rw [Writing.pass, if_neg (Nat.lt_asymm hgt), if_neg (Nat.ne_of_gt hgt)]
  refine ⟨?_, ?_, h.basic_le, h.first_iff, h.last_le, ?_⟩
  · rw [hknown]
    exact h.insertAll?_append
  · rw [hknown]
    exact h.length_eq
  · rw [hfront]
    exact h.steps_eq

/-- One more place is gone through, at which the character is inserted. -/
theorem pass_of_eq (h : Tracks basic w c.toNat front (c :: back) last place) :
    Tracks basic (w.pass basic.length c.toNat c) c.toNat (front ++ [c]) back c.toNat
      ((front.filter (·.toNat ≤ c.toNat)).length + 1) := by
  have hlength := h.length_eq
  have hbasic := h.basic_le
  have hknown : known c.toNat front (c :: back) =
      front.filter (·.toNat ≤ c.toNat) ++ back.filter (·.toNat < c.toNat) := by
    simp [known]
  -- the place of the character is behind all that is known in front of it
  have hnew : (known c.toNat front (c :: back)).take (front.filter (·.toNat ≤ c.toNat)).length ++
      c :: (known c.toNat front (c :: back)).drop (front.filter (·.toNat ≤ c.toNat)).length =
        known c.toNat (front ++ [c]) back := by
    rw [hknown, List.take_left', List.drop_left' rfl]
    · simp [known]
    · rfl
  have hplace : (front.filter (·.toNat ≤ c.toNat)).length ≤
      (known c.toNat front (c :: back)).length := by
    rw [hknown, List.length_append]
    exact Nat.le_add_right _ _
  have hsteps := h.steps_eq
  rw [hlength] at hsteps
  have hfirst : (decide (place = 0)) = decide (w.length = basic.length) :=
    decide_eq_decide.mpr h.first_iff
  rw [Writing.pass, if_neg (Nat.lt_irrefl _), if_pos rfl]
  refine ⟨fun rest => ?_, ?_, ?_, ?_, Nat.le_refl _, ?_⟩
  · dsimp only
    rw [List.append_assoc, h.insertAll?_append,
      insertAll?_writeNumber h.last_le hplace hsteps, hnew, hfirst, hlength]
  · dsimp only
    rw [hlength, hknown]
    simp [known]
    omega
  · dsimp only
    omega
  · dsimp only
    omega
  · simp

/-- One more place is gone through. -/
theorem pass (h : Tracks basic w m front (c :: back) last place) :
    ∃ last place, Tracks basic (w.pass basic.length m c) m (front ++ [c]) back last place := by
  rcases Nat.lt_trichotomy c.toNat m with hlt | rfl | hgt
  · exact ⟨last, place, h.pass_of_lt hlt⟩
  · exact ⟨_, _, h.pass_of_eq⟩
  · exact ⟨last, place, h.pass_of_gt hgt⟩

/-- All places are gone through. -/
theorem foldl_pass (h : Tracks basic w m front back last place) :
    ∃ last place,
      Tracks basic (back.foldl (Writing.pass basic.length m) w) m (front ++ back) [] last place := by
  induction back generalizing w front last place with
  | nil =>
    rw [List.append_nil]
    exact ⟨last, place, h⟩
  | cons c back ih =>
    -- the place moves from those to come to those gone through
    obtain ⟨last', place', hpass⟩ := h.pass
    rw [List.foldl_cons, ← List.singleton_append, ← List.append_assoc]
    exact ih hpass

/-- Numbers that no character has are left out. -/
theorem skip (h : Tracks basic w m [] text last place) {m' : Nat} (hm : m ≤ m')
    (hnone : ∀ c ∈ text, ¬ (m ≤ c.toNat ∧ c.toNat < m')) :
    Tracks basic { w with steps := w.steps + (m' - m) * (w.length + 1) } m' [] text last place := by
  have hknown : known m' [] text = known m [] text := by
    rw [known, known, List.filter_nil, List.filter_nil]
    congr 1
    refine List.filter_congr fun c hc => decide_eq_decide.mpr ?_
    have hnot := hnone c hc
    omega
  have hsteps := h.steps_eq
  have hlast := h.last_le
  refine ⟨?_, ?_, h.basic_le, h.first_iff, Nat.le_trans hlast hm, ?_⟩
  · rw [hknown]
    exact h.insertAll?_append
  · rw [hknown]
    exact h.length_eq
  · have hsum : m' - last = (m - last) + (m' - m) := by omega
    dsimp only
    rw [← Nat.add_assoc, hsteps, hsum, Nat.add_mul]
    simp

/-- Behind the last place the next character begins. -/
theorem next (h : Tracks basic w m text [] last place) :
    Tracks basic { w with steps := w.steps + 1 } (m + 1) [] text last place := by
  have hknown : known (m + 1) [] text = known m text [] := by
    simp only [known, List.filter_nil, Nat.lt_succ_iff, List.nil_append, List.append_nil]
  have hlength := h.length_eq
  rw [known, List.filter_nil, List.append_nil] at hlength
  have hsteps := h.steps_eq
  have hlast := h.last_le
  refine ⟨?_, ?_, h.basic_le, h.first_iff, by omega, ?_⟩
  · rw [hknown]
    exact h.insertAll?_append
  · rw [hknown]
    exact h.length_eq
  · have hsum : m + 1 - last = (m - last) + 1 := by omega
    dsimp only
    rw [← Nat.add_assoc, hsteps, hsum, Nat.add_mul, ← hlength]
    simp
    omega

/-- All characters are inserted. -/
theorem writeAll {codes : List Nat} (h : Tracks basic w m [] text last place)
    (hsorted : codes.Pairwise (· < ·))
    (hcodes : ∀ n, n ∈ codes ↔ m ≤ n ∧ n ∈ text.map Char.toNat) :
    insertAll? basic firstCode 0 initialBias
      (writeAll text basic.length m w codes).written = some text := by
  induction codes generalizing w m last place with
  | nil =>
    -- no character has the number `m` or a larger one, so all are known
    have hall : known m [] text = text := by
      rw [known, List.filter_nil, List.nil_append, List.filter_eq_self]
      intro c hc
      have hnot := (hcodes c.toNat).not.mp List.not_mem_nil
      rw [decide_eq_true_eq]
      by_contra hge
      exact hnot ⟨Nat.le_of_not_lt hge, List.mem_map_of_mem hc⟩
    have hread := h.insertAll?_append []
    rw [List.append_nil, hall, insertAll?_nil] at hread
    exact hread
  | cons n codes ih =>
    rw [List.pairwise_cons] at hsorted
    obtain ⟨hn, -⟩ := (hcodes n).mp List.mem_cons_self
    have hnone : ∀ c ∈ text, ¬ (m ≤ c.toNat ∧ c.toNat < n) := by
      rintro c hc ⟨hlow, hhigh⟩
      rcases List.mem_cons.mp ((hcodes c.toNat).mpr ⟨hlow, List.mem_map_of_mem hc⟩) with heq | hmem
      · omega
      · have hlt := hsorted.1 _ hmem
        omega
    obtain ⟨last', place', hpass⟩ := (h.skip hn hnone).foldl_pass
    rw [Punycode.writeAll]
    refine ih hpass.next hsorted.2 fun k => ?_
    constructor
    · intro hk
      have hlt := hsorted.1 k hk
      exact ⟨hlt, ((hcodes k).mp (List.mem_cons_of_mem n hk)).2⟩
    · rintro ⟨hk, hmem⟩
      rcases List.mem_cons.mp ((hcodes k).mpr ⟨by omega, hmem⟩) with rfl | hk'
      · omega
      · exact hk'

end Tracks

/-! ### Texts -/

/-- What holds of all digits holds of the numbers of a text. -/
theorem of_mem_written {p : Char → Prop} (h : ∀ n < 36, p (digit n)) (text : List Char)
    (basic : Nat) {w : Writing} (hw : ∀ c ∈ w.written, p c) (code : Nat) (codes : List Nat) :
    ∀ c ∈ (writeAll text basic code w codes).written, p c := by
  have hpass (m : Nat) (places : List Char) {w : Writing} (hw : ∀ c ∈ w.written, p c) :
      ∀ c ∈ (places.foldl (Writing.pass basic m) w).written, p c := by
    induction places generalizing w with
    | nil => exact hw
    | cons d places ih =>
      refine ih ?_
      rw [Writing.pass]
      split
      · exact hw
      · split
        · exact List.forall_mem_append.mpr ⟨hw, fun _ => of_mem_writeNumber h⟩
        · exact hw
  induction codes generalizing w code with
  | nil => exact hw
  | cons m codes ih =>
    rw [writeAll]
    refine ih ?_ (m + 1)
    refine hpass m text ?_
    exact hw

/-- The Punycode of a text holds the characters of ASCII in the text, hyphens and digits. -/
theorem mem_encode {text : List Char} {c : Char} (hc : c ∈ encode text) :
    (c ∈ text ∧ c.toNat < firstCode) ∨ c = '-' ∨ ∃ n < 36, c = digit n := by
  rw [encode, List.mem_append, List.mem_append] at hc
  rcases hc with (hc | hc) | hc
  · rw [List.mem_filter, decide_eq_true_eq] at hc
    exact .inl hc
  · split at hc
    · cases hc
    · exact .inr (.inl (List.mem_singleton.mp hc))
  · exact .inr (.inr (of_mem_written (p := fun c => ∃ n < 36, c = digit n)
      (fun n hn => ⟨n, hn, rfl⟩) text _ (List.forall_mem_nil _) _ _ c hc))

/-- Without repetitions, what is in order ascends. -/
theorem pairwise_lt_eraseDups {codes : List Nat} (h : codes.Pairwise (· ≤ ·)) :
    codes.eraseDups.Pairwise (· < ·) := by
  induction hlength : codes.length using Nat.strong_induction_on generalizing codes with
  | _ length ih =>
    cases codes with
    | nil => exact List.Pairwise.nil
    | cons n codes =>
      rw [List.pairwise_cons] at h
      rw [List.length_cons] at hlength
      have hle := List.length_filter_le (fun k => !k == n) codes
      rw [List.eraseDups_cons, List.pairwise_cons]
      refine ⟨fun k hk => ?_, ih _ (by omega) (h.2.filter _) rfl⟩
      rw [List.mem_eraseDups, List.mem_filter] at hk
      have hne : k ≠ n := by simpa using hk.2
      exact Nat.lt_of_le_of_ne (h.1 k hk.1) hne.symm

/-- The part in front of the last hyphen is split off. -/
theorem splitParts_append {written : List Char} (hwritten : '-' ∉ written) (basic : List Char) :
    splitParts (basic ++ '-' :: written) = (basic, written) := by
  have hback : ((basic ++ '-' :: written).reverse.takeWhile (· ≠ '-')).reverse = written := by
    rw [List.reverse_append, List.reverse_cons, List.append_assoc, List.takeWhile_append_of_pos]
    · simp
    · exact fun c hc => by simpa using fun heq : c = '-' => hwritten (heq ▸ List.mem_reverse.mp hc)
  have hlength : (basic ++ '-' :: written).length - written.length - 1 = basic.length := by
    rw [List.length_append, List.length_cons]
    omega
  rw [splitParts, hback, hlength, List.take_left' rfl]

theorem splitParts_of_notMem {s : List Char} (hs : '-' ∉ s) : splitParts s = ([], s) := by
  have hback : (s.reverse.takeWhile (· ≠ '-')).reverse = s := by
    rw [List.takeWhile_eq_self_iff.mpr, List.reverse_reverse]
    exact fun c hc => by simpa using fun heq : c = '-' => hs (heq ▸ List.mem_reverse.mp hc)
  rw [splitParts, hback, Nat.sub_self, Nat.zero_sub, List.take_zero]

/-- Every text is read back from its Punycode. -/
theorem decode?_encode (text : List Char) : decode? (encode text) = some text := by
  rw [encode]
  generalize hbasic : text.filter (·.toNat < firstCode) = basic
  generalize hcodes : ((text.map Char.toNat).filter (firstCode ≤ ·)).mergeSort.eraseDups = codes
  have hsorted : codes.Pairwise (· < ·) := by
    rw [← hcodes]
    refine pairwise_lt_eraseDups ?_
    have htrans (a b c : Nat) (hab : decide (a ≤ b) = true) (hbc : decide (b ≤ c) = true) :
        decide (a ≤ c) = true := by
      rw [decide_eq_true_eq] at hab hbc ⊢
      exact Nat.le_trans hab hbc
    have htotal (a b : Nat) : (decide (a ≤ b) || decide (b ≤ a)) = true := by
      simpa using Nat.le_total a b
    simpa using List.pairwise_mergeSort htrans htotal
      ((text.map Char.toNat).filter (firstCode ≤ ·))
  have hmem : ∀ n, n ∈ codes ↔ firstCode ≤ n ∧ n ∈ text.map Char.toNat := by
    intro n
    rw [← hcodes, List.mem_eraseDups, List.mem_mergeSort, List.mem_filter, decide_eq_true_eq,
      and_comm]
  have hstart : Tracks basic { length := basic.length } firstCode [] text firstCode 0 := by
    have hknown : known firstCode [] text = basic := by
      rw [known, List.filter_nil, List.nil_append, hbasic]
    refine ⟨fun rest => ?_, ?_, Nat.le_refl _, by simp, Nat.le_refl _, by simp⟩
    · rw [hknown]
      rfl
    · rw [hknown]
  have hread := hstart.writeAll hsorted hmem
  have hhyphen : '-' ∉ (writeAll text basic.length firstCode { length := basic.length }
      codes).written := fun hc =>
    of_mem_written (p := (· ≠ '-')) (by decide) text basic.length (List.forall_mem_nil _) firstCode
      codes '-' hc rfl
  generalize (writeAll text basic.length firstCode { length := basic.length } codes).written =
    written at hread hhyphen
  cases basic with
  | nil =>
    have hhead : ¬ written.head? = some '-' := fun h => hhyphen (List.mem_of_head? h)
    rw [List.isEmpty_nil, if_pos rfl, List.nil_append, List.nil_append, decode?,
      splitParts_of_notMem hhyphen]
    simpa [hhead] using hread
  | cons c basic =>
    rw [List.isEmpty_cons, if_neg Bool.false_ne_true, List.append_assoc, List.singleton_append,
      decode?, splitParts_append hhyphen]
    simpa using hread

/-- All characters of ASCII in a text stand in its Punycode. -/
theorem mem_of_decode? {s text : List Char} (h : decode? s = some text) {c : Char} (hc : c ∈ text)
    (hascii : c.toNat < firstCode) : c ∈ s := by
  have hfrom (start : List Char) (code place bias : Nat) (numbers : List Char)
      (hread : insertAll? start code place bias numbers = some text) (hcode : firstCode ≤ code) :
      c ∈ start := by
    induction start, code, place, bias, numbers using insertAll?.induct with
    | case1 start code place bias =>
      rw [insertAll?_nil] at hread
      rwa [Option.some.inj hread]
    | case2 start code place bias numbers hne hnone =>
      rw [insertAll?_of_eq_none hne hnone] at hread
      cases hread
    | case3 start code place bias numbers hne steps rest hsome length code' hlarge =>
      rw [insertAll?_of_readNumber? hsome, if_pos hlarge] at hread
      cases hread
    | case4 start code place bias numbers hne steps rest hsome length code' hvalid next ih =>
      rw [insertAll?_of_readNumber? hsome, if_neg hvalid] at hread
      have hcode' : firstCode ≤ code' := Nat.le_trans hcode (Nat.le_add_right _ _)
      have hnew : (Char.ofNat code').toNat = code' := by
        have hchar : code'.isValidChar := by
          rw [Nat.isValidChar]
          omega
        rw [Char.ofNat, dif_pos hchar]
        rfl
      rcases List.mem_append.mp (ih hread hcode') with hc | hc
      · exact List.mem_of_mem_take hc
      · rcases List.mem_cons.mp hc with rfl | hc
        · omega
        · exact List.mem_of_mem_drop hc
  unfold decode? at h
  split at h
  rename_i basic numbers hsplit
  split at h
  · cases h
  · have hbasic := hfrom basic firstCode 0 initialBias numbers h (Nat.le_refl _)
    rw [splitParts] at hsplit
    obtain ⟨rfl, -⟩ := Prod.mk.inj hsplit
    exact List.mem_of_mem_take hbasic

end FlowAudit.Punycode
