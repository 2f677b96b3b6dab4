import FlowAudit.Number.Rounding

/-!
# Durations for readers

A duration is shown in milliseconds below a second, in seconds below a minute and in minutes from
there on. Seconds and minutes have one decimal place. They are computed in binary precision before
they are cut to it, so 1.15 seconds, which is a little less in binary, is shown as 1.1.
-/

namespace FlowAudit.Text

open Number

/-- The quotient with one decimal place, computed in binary precision. -/
def oneDecimal (n d : Nat) : String :=
  let exact := (Fraction.mk n 1).nearest
  let quotient := (Fraction.mk exact.numerator (exact.denominator * d)).nearest
  let tenths := roundDiv (10 * quotient.numerator) quotient.denominator
  toString (tenths / 10) ++ "." ++ toString (tenths % 10)

/-- The milliseconds of a second. -/
def millisPerSecond : Nat := 1000

/-- The milliseconds of a minute. -/
def millisPerMinute : Nat := 60 * millisPerSecond

/-- The text of a duration in milliseconds. -/
def duration (millis : UInt64) : String :=
  let n := millis.toNat
  if n ≥ millisPerMinute then oneDecimal n millisPerMinute ++ " min"
  else if n ≥ millisPerSecond then oneDecimal n millisPerSecond ++ " s"
  else toString n ++ " ms"

/-- The text of a switch. -/
def switch (on : Bool) : String :=
  if on then "on" else "off"

end FlowAudit.Text
