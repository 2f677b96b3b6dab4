/-!
# Rounding

Quotients of natural numbers, rounded to the nearest whole number or to the nearest number of binary
precision (fifty-three significant bits). A tie goes to the even neighbour. All arithmetic is exact.
-/

namespace FlowAudit.Number

/-- The quotient rounded to the nearest whole number; a tie goes to the even one. -/
def roundDiv (n d : Nat) : Nat :=
  let q := n / d
  let r := n % d
  if 2 * r < d then q
  else if 2 * r > d then q + 1
  else if q % 2 = 0 then q
  else q + 1

/-- The rounded quotient is at most half a unit away from the exact one. -/
theorem roundDiv_near {n d : Nat} (h : 0 < d) :
    2 * n ≤ 2 * (roundDiv n d * d) + d ∧ 2 * (roundDiv n d * d) ≤ 2 * n + d := by
  have hn := Nat.div_add_mod n d
  have hlt := Nat.mod_lt n h
  have hc : d * (n / d) = n / d * d := Nat.mul_comm ..
  unfold roundDiv
  simp only []
  split
  · omega
  · split
    · rw [Nat.add_mul]; omega
    · split
      · omega
      · rw [Nat.add_mul]; omega

/-- A fraction of natural numbers. -/
structure Fraction where
  numerator : Nat
  denominator : Nat
  deriving DecidableEq, Repr, Inhabited

/-- The number of significant bits in binary precision. -/
def significantBits : Nat := 53

/-- The number of binary precision that is nearest to `n / d`, which is at least one. -/
def Fraction.nearest (x : Fraction) : Fraction :=
  let bits := (x.numerator / x.denominator).log2 + 1
  if bits ≤ significantBits then
    let scale := Nat.pow 2 (significantBits - bits)
    ⟨roundDiv (x.numerator * scale) x.denominator, scale⟩
  else
    let scale := Nat.pow 2 (bits - significantBits)
    ⟨roundDiv x.numerator (x.denominator * scale) * scale, 1⟩

/-- The least number whose nearest number of binary precision would need an exponent that is too
large. -/
def overflow : Nat :=
  Nat.pow 2 1024 - Nat.pow 2 970

/-- Whether `mantissa * 10 ^ exponent` is small enough to be a number of binary precision. -/
def isInRange (mantissa : Nat) : (exponent : Int) → Bool
  | .ofNat k => mantissa = 0 || (k ≤ 308 && mantissa * Nat.pow 10 k < overflow)
  -- a number below one needs no computation
  | .negSucc k => mantissa.log2 ≤ k || mantissa < overflow * Nat.pow 10 (k + 1)

end FlowAudit.Number
