import FlowAudit.Backoff

/-!
# Delays are exact

The factor of a delay is a power of two that fits a word (`toNat_factor`), and a product that does
not fit is replaced by the largest word (`toNat_saturatingMul`). No maximum is larger than that, so
a delay is what the arithmetic of natural numbers says (`toNat_delay`). In particular delays never
get shorter, and as long as they are doubled each is twice the one before or the maximum
(`doubles_delay`).
-/

namespace FlowAudit.Backoff

theorem toNat_factor (doublings : Nat) :
    (factor doublings).toNat = Nat.pow 2 (min doublings maxDoublings) := by
  have hle : min doublings maxDoublings ≤ 32 := Nat.min_le_right doublings 32
  have hshift : (UInt64.ofNat (min doublings maxDoublings)).toNat % 64 =
      min doublings maxDoublings := by
    rw [UInt64.toNat_ofNat_of_lt' (by show _ < 18446744073709551616; omega),
      Nat.mod_eq_of_lt (by omega)]
  -- no bit is shifted out
  have hfits : Nat.pow 2 (min doublings maxDoublings) < Nat.pow 2 64 :=
    Nat.pow_lt_pow_right (by decide) (by omega)
  rw [factor, UInt64.toNat_shiftLeft, hshift, Nat.shiftLeft_eq]
  show 1 * Nat.pow 2 (min doublings maxDoublings) % Nat.pow 2 64 = _
  rw [Nat.one_mul, Nat.mod_eq_of_lt hfits]

theorem toNat_saturatingMul (a b : UInt64) :
    (saturatingMul a b).toNat = min (a.toNat * b.toNat) (UInt64.size - 1) := by
  unfold saturatingMul
  split
  · rename_i hfits
    rw [UInt64.toNat_mul, Nat.mod_eq_of_lt hfits]
    omega
  · show UInt64.size - 1 = _
    omega

/-- A delay is the base, doubled so many times but not more than thirty-two times, or the maximum if
that is less. -/
theorem toNat_delay (base limit : UInt64) (doublings : Nat) :
    (delay base limit doublings).toNat =
      min (base.toNat * Nat.pow 2 (min doublings 32)) limit.toNat := by
  have hmin (a b : UInt64) : (min a b).toNat = min a.toNat b.toNat := by
    show (if a ≤ b then a else b).toNat = _
    split
    · rename_i hle
      exact (Nat.min_eq_left hle).symm
    · rename_i hnot
      exact (Nat.min_eq_right (Nat.le_of_lt (Nat.lt_of_not_le hnot))).symm
  -- the maximum is a word, so it cuts off whatever is saturated
  have hlimit : limit.toNat ≤ UInt64.size - 1 := Nat.le_sub_one_of_lt limit.toNat_lt_size
  rw [delay, hmin, toNat_saturatingMul, toNat_factor, Nat.min_assoc, Nat.min_eq_right hlimit]
  rfl

/-! ### Sequences of delays -/

/-- Delays that start at `base` and double thirty-two times, none longer than `limit`, where nothing
is lost to the size of words. -/
structure Doubles (base limit : UInt64) (delays : Nat → UInt64) : Prop where
  toNat_eq : ∀ n,
    (delays n).toNat = min (base.toNat * Nat.pow 2 (min n 32)) limit.toNat
  le_of_le : ∀ m n, m ≤ n → delays m ≤ delays n
  le_limit : ∀ n, delays n ≤ limit
  toNat_succ : ∀ n, n < 32 → (delays (n + 1)).toNat = min (2 * (delays n).toNat) limit.toNat

theorem doubles_delay (base limit : UInt64) : Doubles base limit (delay base limit) where
  toNat_eq := toNat_delay base limit
  le_of_le m n hmn := by
    rw [UInt64.le_iff_toNat_le, toNat_delay, toNat_delay]
    have hpow : Nat.pow 2 (min m 32) ≤ Nat.pow 2 (min n 32) :=
      Nat.pow_le_pow_right (by decide) (by omega)
    have hmul := Nat.mul_le_mul_left base.toNat hpow
    omega
  le_limit n := by
    rw [UInt64.le_iff_toNat_le, toNat_delay]
    exact Nat.min_le_right _ _
  toNat_succ n hn := by
    have hpow : Nat.pow 2 (min (n + 1) 32) = Nat.pow 2 (min n 32) * 2 := by
      rw [Nat.min_eq_left hn, Nat.min_eq_left (Nat.le_of_lt hn)]
      rfl
    rw [toNat_delay, toNat_delay, hpow, ← Nat.mul_assoc]
    -- twice the maximum is cut off as well
    omega

end FlowAudit.Backoff
