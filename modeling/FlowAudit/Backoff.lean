/-!
# Delays between attempts

The delay before a further attempt doubles with each one, up to a maximum. Delays are words of
sixty-four bits that count milliseconds; products that do not fit are replaced by the largest word,
which the maximum then cuts off, so the result is that of exact arithmetic.
-/

namespace FlowAudit.Backoff

/-- The product of two words, or the largest word if it does not fit. -/
def saturatingMul (a b : UInt64) : UInt64 :=
  if a.toNat * b.toNat < UInt64.size then a * b else UInt64.ofNat (UInt64.size - 1)

/-- The most doublings of a delay. -/
def maxDoublings : Nat := 32

/-- The factor after a number of doublings. -/
def factor (doublings : Nat) : UInt64 :=
  1 <<< UInt64.ofNat (min doublings maxDoublings)

/-- The delay after a number of doublings of `base`, at most `limit`. -/
def delay (base limit : UInt64) (doublings : Nat) : UInt64 :=
  min (saturatingMul base (factor doublings)) limit

end FlowAudit.Backoff
