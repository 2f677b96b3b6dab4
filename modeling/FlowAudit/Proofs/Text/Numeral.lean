import Mathlib.Data.Nat.Notation
import FlowAudit.Text.Numeral

/-!
# Decimal numbers read back

A number that was written in decimal is read as that number (`Text.unsigned?_toString`,
`Text.signed?_toString`), and what is read lies in the range that was asked for.
-/

namespace FlowAudit.Text

/-! ### Digits -/

/-- A decimal digit is read as its place behind zero. -/
theorem digitOf?_of_isDigit {c : Char} (hc : c.isDigit = true) :
    digitOf? 10 c = some (c.toNat - '0'.toNat) := by
  rw [Char.isDigit, Bool.and_eq_true, decide_eq_true_eq, decide_eq_true_eq] at hc
  have hlow : '0' ≤ c := hc.1
  have hhigh : c ≤ '9' := hc.2
  have hle : c.toNat ≤ '9'.toNat := UInt32.le_iff_toNat_le.mp hc.2
  have hlt : c.toNat - 48 < 10 := by
    have hnine : '9'.toNat = 57 := rfl
    omega
  simp [digitOf?, digitValue?, hlow, hhigh, hlt]

theorem ofDigitsFrom?_of_isDigit {s : List Char} (hs : ∀ c ∈ s, c.isDigit = true) (value : Nat) :
    ofDigitsFrom? 10 value s = some (Nat.ofDigitChars 10 s value) := by
  induction s generalizing value with
  | nil => rfl
  | cons c rest ih =>
    have hrest := ih (fun d hd => hs d (List.mem_cons_of_mem c hd))
    rw [ofDigitsFrom?, digitOf?_of_isDigit (hs c List.mem_cons_self), Nat.ofDigitChars_cons,
      Nat.mul_comm]
    exact hrest _

theorem ofDigits?_toDigits (n : Nat) : ofDigits? 10 (Nat.toDigits 10 n) = some n := by
  have hdigits : ∀ c ∈ Nat.toDigits 10 n, c.isDigit = true :=
    fun c hc => Nat.isDigit_of_mem_toDigits (by omega) (by omega) hc
  rw [ofDigits?, ofDigitsFrom?_of_isDigit hdigits, Nat.ofDigitChars_toDigits (by omega) (by omega)]
  simp [Nat.toDigits_ne_nil]

/-- What is read holds digits only. -/
theorem isDigitOf_of_ofDigits? {base n : Nat} {s : List Char} (h : ofDigits? base s = some n) :
    s ≠ [] ∧ ∀ c ∈ s, isDigitOf base c = true := by
  have hfrom : ∀ (s : List Char) (value : Nat), ofDigitsFrom? base value s = some n →
      ∀ c ∈ s, isDigitOf base c = true := by
    intro s
    induction s with
    | nil => exact fun _ _ => List.forall_mem_nil _
    | cons c rest ih =>
      intro value hread
      obtain ⟨digit, hdigit, hrest⟩ := Option.bind_eq_some_iff.mp hread
      exact List.forall_mem_cons.mpr ⟨by rw [isDigitOf, hdigit, Option.isSome_some], ih _ hrest⟩
  unfold ofDigits? at h
  split at h
  · cases h
  · rename_i hempty
    exact ⟨by simpa using hempty, hfrom s 0 h⟩

/-- A number that is written in decimal does not start with a sign. -/
theorem head?_toDigits_ne {c : Char} (hc : c.isDigit = false) (n : Nat) :
    (Nat.toDigits 10 n).head? ≠ some c := by
  intro hhead
  have hmem : c ∈ Nat.toDigits 10 n := List.mem_of_head? hhead
  have hdigit := Nat.isDigit_of_mem_toDigits (b := 10) (by omega) (by omega) hmem
  rw [hc] at hdigit
  cases hdigit

/-- Only zero starts with a zero. -/
theorem eq_zero_of_head?_toDigits {n : Nat} (h : (Nat.toDigits 10 n).head? = some '0') :
    n = 0 := by
  have hdigit : ∀ d < 10, d.digitChar = '0' → d = 0 := by decide
  induction n using Nat.strongRecOn with
  | _ n ih =>
    by_cases hn : n < 10
    · rw [Nat.toDigits_of_lt_base hn, List.head?_singleton, Option.some.injEq] at h
      exact hdigit n hn h
    · have hsome : (Nat.toDigits 10 (n / 10)).head?.isSome :=
        List.isSome_head?.mpr Nat.toDigits_ne_nil
      rw [Nat.toDigits_of_base_le (by omega) (by omega), List.head?_append,
        Option.or_of_isSome hsome] at h
      have hzero := ih (n / 10) (by omega) h
      omega

/-! ### Whole numbers -/

theorem unsigned?_toString {limit n : Nat} (hn : n ≤ limit) :
    unsigned? 10 limit (toString n).toList = some n := by
  rw [Nat.toString_eq_repr, Nat.toList_repr]
  have hhead := head?_toDigits_ne (c := '+') rfl n
  have hdigits := ofDigits?_toDigits n
  unfold unsigned?
  split
  · rename_i rest heq
    rw [heq] at hhead
    exact absurd rfl hhead
  · dsimp only
    rw [hdigits, Option.filter_some, if_pos (by simpa using hn)]

/-- Numbers are told by their digits. -/
theorem toString_inj {n m : Nat} : (toString n).toList = (toString m).toList ↔ n = m := by
  constructor
  · intro h
    have hread := unsigned?_toString (Nat.le_max_left n m)
    rw [h, unsigned?_toString (Nat.le_max_right n m)] at hread
    exact (Option.some.inj hread).symm
  · rintro rfl
    rfl

theorem byte?_toString (n : UInt8) : byte? (toString n.toNat).toList = some n := by
  have hlimit : n.toNat ≤ maxOfBits 8 := Nat.le_sub_one_of_lt n.toNat_lt
  rw [byte?, unsigned?_toString hlimit, Option.map_some, UInt8.ofNat_toNat]

theorem word16?_toString (n : UInt16) : word16? (toString n.toNat).toList = some n := by
  have hlimit : n.toNat ≤ maxOfBits 16 := Nat.le_sub_one_of_lt n.toNat_lt
  rw [word16?, unsigned?_toString hlimit, Option.map_some, UInt16.ofNat_toNat]

theorem signed?_toString {low high n : Int} (hlow : low ≤ n) (hhigh : n ≤ high) :
    signed? low high (toString n).toList = some n := by
  have hrange : (decide (low ≤ n) && decide (n ≤ high)) = true := by simp [hlow, hhigh]
  rw [Int.toString_eq_repr]
  cases n with
  | ofNat m =>
    rw [Int.repr, Nat.toList_repr]
    have hplus := head?_toDigits_ne (c := '+') rfl m
    have hminus := head?_toDigits_ne (c := '-') rfl m
    have hdigits := ofDigits?_toDigits m
    unfold signed?
    split
    · rename_i rest heq
      rw [heq] at hplus
      exact absurd rfl hplus
    · rename_i rest heq
      rw [heq] at hminus
      exact absurd rfl hminus
    · rw [hdigits, Option.map_some, Option.filter_some, if_pos hrange]
  | negSucc m =>
    rw [Int.repr, String.toList_append, Nat.toList_repr]
    have hsign : "-".toList ++ Nat.toDigits 10 (m + 1) = '-' :: Nat.toDigits 10 (m + 1) := rfl
    have hdigits := ofDigits?_toDigits (m + 1)
    rw [hsign, signed?, hdigits]
    exact if_pos hrange

/-- What is read lies in the range. -/
theorem signed?_range {low high n : Int} {s : List Char} (h : signed? low high s = some n) :
    low ≤ n ∧ n ≤ high := by
  unfold signed? at h
  rw [Option.filter_eq_some_iff] at h
  simpa using h.2

/-- What is read holds digits, behind a sign at most. -/
theorem isDigitOf_of_signed? {low high n : Int} {s : List Char} (h : signed? low high s = some n) :
    s ≠ [] ∧ ∀ c ∈ s, c = '+' ∨ c = '-' ∨ isDigitOf 10 c = true := by
  unfold signed? at h
  obtain ⟨hvalue, -⟩ := Option.filter_eq_some_iff.mp h
  split at hvalue
  · obtain ⟨m, hm, -⟩ := Option.map_eq_some_iff.mp hvalue
    refine ⟨List.cons_ne_nil _ _, List.forall_mem_cons.mpr ⟨.inl rfl, fun c hc => ?_⟩⟩
    exact .inr (.inr ((isDigitOf_of_ofDigits? hm).2 c hc))
  · obtain ⟨m, hm, -⟩ := Option.map_eq_some_iff.mp hvalue
    obtain ⟨k, hk, -⟩ := Option.bind_eq_some_iff.mp hm
    refine ⟨List.cons_ne_nil _ _, List.forall_mem_cons.mpr ⟨.inr (.inl rfl), fun c hc => ?_⟩⟩
    exact .inr (.inr ((isDigitOf_of_ofDigits? hk).2 c hc))
  · obtain ⟨m, hm, -⟩ := Option.map_eq_some_iff.mp hvalue
    obtain ⟨hne, hdigits⟩ := isDigitOf_of_ofDigits? hm
    exact ⟨hne, fun c hc => .inr (.inr (hdigits c hc))⟩

/-! ### Zeros in front -/

theorem digits_ten (n : Nat) : digits 10 n = Nat.toDigits 10 n := by
  have hdigit : ∀ d < 10, digitChar d = d.digitChar := by decide
  induction n using Nat.strongRecOn with
  | _ n ih =>
    by_cases hn : n < 10
    · rw [digits, if_pos (.inr hn), Nat.toDigits_of_lt_base hn, hdigit n hn]
    · rw [digits, if_neg (by omega), ih (n / 10) (by omega), hdigit (n % 10) (by omega),
        ← Nat.toDigits_of_base_le (by omega) (by omega)]

theorem isDigit_of_mem_padded {width n : Nat} {c : Char} (hc : c ∈ paddedDigits 10 width n) :
    c.isDigit = true := by
  rw [paddedDigits, digits_ten, List.mem_append] at hc
  rcases hc with hc | hc
  · rw [List.eq_of_mem_replicate hc]
    decide
  · exact Nat.isDigit_of_mem_toDigits (by omega) (by omega) hc

theorem padded_ne_nil (width n : Nat) : paddedDigits 10 width n ≠ [] := by
  simp [paddedDigits, digits_ten, Nat.toDigits_ne_nil]

/-- Zeros in front of a decimal number make no difference. -/
theorem ofDigits?_padded (width n : Nat) : ofDigits? 10 (paddedDigits 10 width n) = some n := by
  have hzeros (k : Nat) : Nat.ofDigitChars 10 (List.replicate k '0') 0 = 0 := by
    induction k with
    | zero => rfl
    | succ k ih =>
      rw [List.replicate_succ, Nat.ofDigitChars_cons]
      exact ih
  rw [ofDigits?, if_neg (by simpa using padded_ne_nil width n),
    ofDigitsFrom?_of_isDigit fun _ => isDigit_of_mem_padded, paddedDigits, digits_ten,
    Nat.ofDigitChars_append, hzeros, Nat.ofDigitChars_toDigits (by omega) (by omega)]

end FlowAudit.Text
