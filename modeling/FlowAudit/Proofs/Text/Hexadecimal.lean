import Mathlib.Algebra.Group.Nat.Defs
import Mathlib.Data.Nat.Init
import Mathlib.Data.List.Basic
import FlowAudit.Proofs.Text.Numeral

/-!
# Hexadecimal numbers read back

A number that was written in hexadecimal is read as that number, whether its letters are small
(`Text.ofDigitsFrom?_digits`) or capitals (`Text.unsigned?_capitals`).
-/

namespace FlowAudit.Text

/-! ### Digits -/

theorem digitOf?_digitChar {n : Nat} (hn : n < 16) : digitOf? 16 (digitChar n) = some n := by
  revert n
  decide

theorem ofDigitsFrom?_append (base value : Nat) (front back : List Char) :
    ofDigitsFrom? base value (front ++ back) =
      (ofDigitsFrom? base value front).bind fun value => ofDigitsFrom? base value back := by
  induction front generalizing value with
  | nil => rfl
  | cons c front ih =>
    rw [List.cons_append, ofDigitsFrom?, ofDigitsFrom?]
    cases digitOf? base c with
    | none => rfl
    | some d => exact ih _

/-- The digits of a number are those of its sixteenth part, and one for the rest. -/
theorem digits_of_le {n : Nat} (hn : 16 ≤ n) :
    digits 16 n = digits 16 (n / 16) ++ [digitChar (n % 16)] := by
  rw [digits, if_neg (by omega)]

theorem digits_of_lt {n : Nat} (hn : n < 16) : digits 16 n = [digitChar n] := by
  rw [digits, if_pos (.inr hn)]

theorem ofDigitsFrom?_digits (n : Nat) : ofDigitsFrom? 16 0 (digits 16 n) = some n := by
  induction n using Nat.strong_induction_on with
  | _ n ih =>
    by_cases hn : n < 16
    · rw [digits_of_lt hn]
      simp [ofDigitsFrom?, digitOf?_digitChar hn]
    · have hrest := ih (n / 16) (by omega)
      rw [digits_of_le (by omega), ofDigitsFrom?_append, hrest]
      simp only [Option.bind_some, ofDigitsFrom?, digitOf?_digitChar (Nat.mod_lt n (by omega))]
      simp only [Option.bind_eq_bind, Option.bind_some]
      congr 1
      omega

theorem isDigitOf_of_mem_digits {n : Nat} {c : Char} (hc : c ∈ digits 16 n) :
    isDigitOf 16 c = true := by
  induction n using Nat.strong_induction_on with
  | _ n ih =>
    by_cases hn : n < 16
    · rw [digits_of_lt hn, List.mem_singleton] at hc
      rw [hc, isDigitOf, digitOf?_digitChar hn]
      rfl
    · rw [digits_of_le (by omega), List.mem_append, List.mem_singleton] at hc
      rcases hc with hc | rfl
      · exact ih (n / 16) (by omega) hc
      · rw [isDigitOf, digitOf?_digitChar (Nat.mod_lt n (by omega))]
        rfl

theorem digits_ne_nil (n : Nat) : digits 16 n ≠ [] := by
  by_cases hn : n < 16
  · simp [digits_of_lt hn]
  · rw [digits_of_le (Nat.le_of_not_lt hn)]
    simp

theorem length_digits_le {n k : Nat} (hn : n < 16 ^ (k + 1)) : (digits 16 n).length ≤ k + 1 := by
  induction k generalizing n with
  | zero => simp [digits_of_lt (by simpa using hn)]
  | succ k ih =>
    by_cases hlt : n < 16
    · simp [digits_of_lt hlt]
    · rw [digits_of_le (by omega), List.length_append, List.length_singleton]
      have hrest := ih (n := n / 16) (Nat.div_lt_of_lt_mul (by rw [Nat.pow_succ'] at hn; exact hn))
      omega

/-- What holds of all hexadecimal digits holds of each of them. -/
theorem of_isDigitOf {p : Char → Prop} (h : "0123456789abcdefABCDEF".toList.Forall p) {c : Char}
    (hc : isDigitOf 16 c = true) : p c := by
  have hall : ∀ n ≤ 122, isDigitOf 16 (Char.ofNat n) = true →
      Char.ofNat n ∈ "0123456789abcdefABCDEF".toList := by
    decide +kernel
  have hle : c.toNat ≤ 122 := by
    by_contra hgt
    have hlarge (d : Char) (hd : d.toNat ≤ 122) : ¬ c ≤ d := fun hle =>
      hgt (Nat.le_trans (UInt32.le_iff_toNat_le.mp hle) hd)
    rw [isDigitOf, digitOf?, digitValue?] at hc
    simp [hlarge '9' (by decide), hlarge 'z' (by decide), hlarge 'Z' (by decide)] at hc
  have hchar := hall c.toNat hle
  rw [Char.ofNat_toNat] at hchar
  exact List.forall_iff_forall_mem.mp h c (hchar hc)

/-- What holds of the ten digits holds of every digit. -/
theorem of_isDigit {p : Char → Prop} (h : "0123456789".toList.Forall p) {c : Char}
    (hc : c.isDigit = true) : p c := by
  have hmem : ∀ n ≤ 57, 48 ≤ n → Char.ofNat n ∈ "0123456789".toList := by decide
  rw [Char.isDigit, Bool.and_eq_true, decide_eq_true_eq, decide_eq_true_eq] at hc
  have hchar := hmem c.toNat (UInt32.le_iff_toNat_le.mp hc.2) (UInt32.le_iff_toNat_le.mp hc.1)
  rw [Char.ofNat_toNat] at hchar
  exact List.forall_iff_forall_mem.mp h c hchar

/-- A number without zeros in front. -/
theorem toList_hex (n : Nat) : (hex 1 n).toList = digits 16 n := by
  have hlength : 1 ≤ (digits 16 n).length := List.length_pos_iff.mpr (digits_ne_nil n)
  simp [hex, paddedDigits, Nat.sub_eq_zero_of_le hlength]

/-! ### Zeros in front -/

theorem isDigitOf_of_mem_paddedDigits {width n : Nat} {c : Char}
    (hc : c ∈ paddedDigits 16 width n) : isDigitOf 16 c = true := by
  rw [paddedDigits, List.mem_append] at hc
  rcases hc with hc | hc
  · rw [List.eq_of_mem_replicate hc]
    decide
  · exact isDigitOf_of_mem_digits hc

theorem ofDigitsFrom?_replicate_zero (k : Nat) :
    ofDigitsFrom? 16 0 (List.replicate k '0') = some 0 := by
  have hzero : digitOf? 16 '0' = some 0 := by decide
  induction k with
  | zero => rfl
  | succ k ih =>
    rw [List.replicate_succ, ofDigitsFrom?, hzero]
    exact ih

theorem ofDigitsFrom?_paddedDigits (width n : Nat) :
    ofDigitsFrom? 16 0 (paddedDigits 16 width n) = some n := by
  rw [paddedDigits, ofDigitsFrom?_append, ofDigitsFrom?_replicate_zero, Option.bind_some,
    ofDigitsFrom?_digits]

theorem paddedDigits_ne_nil (width n : Nat) : paddedDigits 16 width n ≠ [] := by
  simp [paddedDigits, digits_ne_nil]

/-- Zeros in front make no difference. -/
theorem ofDigits?_paddedDigits (width n : Nat) :
    ofDigits? 16 (paddedDigits 16 width n) = some n := by
  rw [ofDigits?, if_neg (by simpa using paddedDigits_ne_nil width n), ofDigitsFrom?_paddedDigits]

theorem length_paddedDigits {k n : Nat} (hn : n < 16 ^ (k + 1)) :
    (paddedDigits 16 (k + 1) n).length = k + 1 := by
  have hle := length_digits_le hn
  rw [paddedDigits, List.length_append, List.length_replicate]
  omega

/-! ### Capitals -/

/-- A number in hexadecimal and in capitals, with zeros in front up to `width` digits. -/
def capitals (width n : Nat) : List Char :=
  (paddedDigits 16 width n).map Char.toUpper

/-- What holds of all digits and capitals holds of the characters of a number. -/
theorem of_mem_capitals {p : Char → Prop} (h : "0123456789ABCDEF".toList.Forall p) {width n : Nat}
    {c : Char} (hc : c ∈ capitals width n) : p c := by
  have hupper : "0123456789abcdefABCDEF".toList.Forall
      fun d => d.toUpper ∈ "0123456789ABCDEF".toList := by
    decide
  obtain ⟨d, hd, rfl⟩ := List.mem_map.mp hc
  exact List.forall_iff_forall_mem.mp h _
    (of_isDigitOf hupper (isDigitOf_of_mem_paddedDigits hd))

/-- A digit counts the same as a capital. -/
theorem ofDigitsFrom?_map_toUpper {s : List Char} (hs : ∀ c ∈ s, isDigitOf 16 c = true)
    (value : Nat) : ofDigitsFrom? 16 value (s.map Char.toUpper) = ofDigitsFrom? 16 value s := by
  have hdigit : "0123456789abcdefABCDEF".toList.Forall
      fun c => digitOf? 16 c.toUpper = digitOf? 16 c := by
    decide
  induction s generalizing value with
  | nil => rfl
  | cons c s ih =>
    rw [List.forall_mem_cons] at hs
    rw [List.map_cons, ofDigitsFrom?, ofDigitsFrom?, of_isDigitOf hdigit hs.1]
    simp only [ih hs.2]

theorem unsigned?_capitals {limit n : Nat} (hn : n ≤ limit) (width : Nat) :
    unsigned? 16 limit (capitals width n) = some n := by
  have hread : ofDigitsFrom? 16 0 (capitals width n) = some n := by
    rw [capitals, ofDigitsFrom?_map_toUpper fun _ => isDigitOf_of_mem_paddedDigits,
      ofDigitsFrom?_paddedDigits]
  have hne : capitals width n ≠ [] := by
    simp [capitals, paddedDigits_ne_nil]
  have hplus : ∀ c ∈ capitals width n, c ≠ '+' :=
    fun _ => of_mem_capitals (p := fun c => c ≠ '+') (by decide)
  unfold unsigned?
  split
  · rename_i rest heq
    exact absurd rfl (hplus '+' (by rw [heq]; exact List.mem_cons_self))
  · dsimp only
    rw [ofDigits?, if_neg (by simpa using hne), hread, Option.filter_some,
      if_pos (by simpa using hn)]

theorem length_capitals {k n : Nat} (hn : n < 16 ^ (k + 1)) :
    (capitals (k + 1) n).length = k + 1 := by
  rw [capitals, List.length_map, length_paddedDigits hn]

theorem capitals_two {n : Nat} (hn : n < 256) :
    capitals 2 n = [(digitChar (n / 16)).toUpper, (digitChar (n % 16)).toUpper] := by
  by_cases hlt : n < 16
  · rw [capitals, paddedDigits, digits_of_lt hlt, Nat.div_eq_of_lt hlt, Nat.mod_eq_of_lt hlt]
    rfl
  · rw [capitals, paddedDigits, digits_of_le (by omega), digits_of_lt (by omega)]
    rfl

end FlowAudit.Text
