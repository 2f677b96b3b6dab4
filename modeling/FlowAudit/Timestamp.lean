import FlowAudit.Text.Numeral

/-!
# Points in time

A timestamp counts seconds from the start of 1970 in coordinated universal time; a number of
nanoseconds of a full second or more stands for a leap second, which belongs to the minute before
it. The calendar is the Gregorian one, extended to all years.
-/

namespace FlowAudit

/-- A point in time. -/
structure Timestamp where
  /-- The seconds since the start of 1970. -/
  seconds : Int
  /-- The nanoseconds in the second; one second or more in a leap second. -/
  nanoseconds : Nat
  deriving DecidableEq, Repr, Inhabited

/-- A day of the calendar; months and days of the month count from one. -/
structure Date where
  year : Int
  month : Nat
  day : Nat
  deriving DecidableEq, Repr, Inhabited

/-- The date of a day, counted from the first day of 1970. The days are counted anew from the first
of March of year 0, so that a leap day is the last day of its year; four hundred years have 146097
days. -/
def Date.ofDays (days : Int) : Date :=
  let n := days + 719468
  let era := n.fdiv 146097
  let dayOfEra := (n.fmod 146097).toNat
  let yearOfEra :=
    (dayOfEra - dayOfEra / 1460 + dayOfEra / 36524 - dayOfEra / 146096) / 365
  let dayOfYear := dayOfEra - (365 * yearOfEra + yearOfEra / 4 - yearOfEra / 100)
  let shifted := (5 * dayOfYear + 2) / 153
  let month := if shifted < 10 then shifted + 3 else shifted - 9
  let year := era * 400 + yearOfEra + (if month ≤ 2 then 1 else 0)
  ⟨year, month, dayOfYear - (153 * shifted + 2) / 5 + 1⟩

/-- A year in four digits, with a sign if it needs more digits or is before year 0. -/
def Date.renderYear (year : Int) : String :=
  let digits := Text.padded 4 year.natAbs
  if year < 0 then "-" ++ digits else if year > 9999 then "+" ++ digits else digits

namespace Timestamp

/-- The seconds of a day. -/
def secondsOfDay : Nat := 86400

/-- The text form of RFC 3339 in universal time, with nine decimal places. -/
def render (t : Timestamp) : String :=
  let date := Date.ofDays (t.seconds.fdiv secondsOfDay)
  let second := (t.seconds.fmod secondsOfDay).toNat
  let leap := t.nanoseconds ≥ 1000000000
  Date.renderYear date.year ++ "-" ++ Text.padded 2 date.month ++ "-" ++ Text.padded 2 date.day ++
    "T" ++ Text.padded 2 (second / 3600) ++ ":" ++ Text.padded 2 (second / 60 % 60) ++ ":" ++
    Text.padded 2 (second % 60 + (if leap then 1 else 0)) ++ "." ++
    Text.padded 9 (t.nanoseconds - (if leap then 1000000000 else 0)) ++ "Z"

end Timestamp

end FlowAudit
