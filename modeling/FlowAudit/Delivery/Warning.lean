/-!
# Spacing warnings out

A `WarnLimiter` lets a warning through when the last one it let through is at least an interval ago,
and counts those it holds back. The count goes out with the next warning.
-/

namespace FlowAudit.Delivery

/-- What decides whether a warning goes out. Times are in milliseconds. -/
structure WarnLimiter where
  interval : Nat
  /-- When the last warning went out. -/
  last : Option Nat
  /-- The warnings held back since. -/
  suppressed : Nat
  deriving DecidableEq, Repr, Inhabited

namespace WarnLimiter

/-- A limiter that has seen no warning yet. -/
def new (interval : Nat) : WarnLimiter :=
  ⟨interval, none, 0⟩

/-- Whether a warning may go out at `now`. The time since the last one counts as zero if the clock
went backwards. -/
def isDue (l : WarnLimiter) (now : Nat) : Bool :=
  match l.last with
  | none => true
  | some last => now - last ≥ l.interval

/-- Asks for a warning at `now`. When it goes out, answers how many were held back before it. -/
def check (l : WarnLimiter) (now : Nat) : Option Nat × WarnLimiter :=
  if l.isDue now then
    (some l.suppressed, { l with last := some now, suppressed := 0 })
  else
    (none, { l with suppressed := l.suppressed + 1 })

end WarnLimiter

end FlowAudit.Delivery
