import FlowAudit.Text.Blank
import FlowAudit.Timestamp
import FlowAudit.Proofs.Text.Numeral
import FlowAudit.Proofs.Text.Words

/-!
# Points in time read back

The date of a day tells the day (`Date.toDays_ofDays`), and the text form of a point in time tells
the point (`Timestamp.parse?_render`), in all years and with leap seconds.
-/

namespace FlowAudit

/-! ### Days -/

namespace Date

/-- The number of a day, counted from the first day of 1970. The years and months start in March, as
in `Date.ofDays`. -/
def toDays (d : Date) : Int :=
  let year := if d.month ≤ 2 then d.year - 1 else d.year
  let yearOfEra := (year % 400).toNat
  let shifted := if d.month ≤ 2 then d.month + 9 else d.month - 3
  let dayOfYear := (153 * shifted + 2) / 5 + d.day - 1
  year / 400 * 146097 +
    (365 * yearOfEra + yearOfEra / 4 - yearOfEra / 100 + dayOfYear : Nat) - 719468

/-- Among four years the year of a day is told without looking for the leap day: of 1460 days one is
left out, which `offset` moves to a day behind the third year. -/
theorem yearOfFour_spec {n : Nat} (hn : n ≤ 1460) (offset : Nat) (hoffset : offset ≤ 96) :
    ∃ k r, (n - (offset + n) / 1460) / 365 = k ∧ k ≤ 3 ∧ r ≤ 365 ∧ n = 365 * k + r := by
  refine ⟨min (n / 365) 3, n - 365 * min (n / 365) 3, ?_, by omega, by omega, by omega⟩
  have hone : (offset + n) / 1460 ≤ 1 := by omega
  by_cases hlast : n = 1460
  · subst hlast
    omega
  · omega

/-- The year of a day of an era, and the day of that year. -/
theorem yearOfEra_spec {n : Nat} (hn : n < 146097) :
    ∃ y r, (n - n / 1460 + n / 36524 - n / 146096) / 365 = y ∧ y < 400 ∧ r ≤ 365 ∧
      n = 365 * y + y / 4 - y / 100 + r := by
  by_cases hlast : n = 146096
  · exact ⟨399, 365, by subst hlast; decide⟩
  obtain ⟨c, m, hc, hm, rfl⟩ : ∃ c m, c ≤ 3 ∧ m < 36524 ∧ n = 36524 * c + m :=
    ⟨n / 36524, n % 36524, by omega, by omega, by omega⟩
  obtain ⟨q, l, hq, hl, rfl⟩ : ∃ q l, q ≤ 24 ∧ l ≤ 1460 ∧ m = 1461 * q + l :=
    ⟨m / 1461, m % 1461, by omega, by omega, by omega⟩
  obtain ⟨k, r, hyear, hk, hr, hday⟩ := yearOfFour_spec hl (24 * c + q) (by omega)
  have hcycles : (36524 * c + (1461 * q + l)) / 1460 = 25 * c + q + (24 * c + q + l) / 1460 := by
    rw [← Nat.mul_add_div (by omega)]
    congr 1
    omega
  have hcenturies : (36524 * c + (1461 * q + l)) / 36524 = c := by omega
  have hera : (36524 * c + (1461 * q + l)) / 146096 = 0 := by omega
  have hle : (24 * c + q + l) / 1460 ≤ l := by omega
  refine ⟨100 * c + 4 * q + k, r, ?_, by omega, hr, ?_⟩
  · rw [hcycles, hcenturies, hera]
    generalize (24 * c + q + l) / 1460 = extra at hyear hle ⊢
    omega
  · have hfour : (100 * c + 4 * q + k) / 4 = 25 * c + q := by omega
    have hhundred : (100 * c + 4 * q + k) / 100 = c := by omega
    omega

/-- The day of a date in a year that starts in March; `shifted` counts the months of that year. -/
theorem toDays_shifted {era : Int} {y shifted month day : Nat} (hy : y < 400)
    (hshifted : shifted ≤ 11)
    (hmonth : (if shifted < 10 then shifted + 3 else shifted - 9) = month) :
    toDays ⟨era * 400 + y + (if month ≤ 2 then 1 else 0), month, day + 1⟩ =
      era * 146097 + (365 * y + y / 4 - y / 100 + ((153 * shifted + 2) / 5 + day) : Nat) -
        719468 := by
  have hyear : (era * 400 + y) % 400 = y ∧ (era * 400 + y) / 400 = era := by omega
  have hback : (month ≤ 2 ∧ month + 9 = shifted) ∨ (¬ month ≤ 2 ∧ month - 3 = shifted) := by
    split at hmonth <;> omega
  unfold toDays
  rcases hback with ⟨hle, hback⟩ | ⟨hgt, hback⟩
  · simp [hle, hback, hyear]
  · simp [hgt, hback, hyear]

/-- The date of a day tells which day it is. -/
theorem toDays_ofDays (n : Int) : (ofDays n).toDays = n := by
  have hera : (n + 719468).fdiv 146097 = (n + 719468) / 146097 :=
    Int.fdiv_eq_ediv_of_nonneg _ (by decide)
  have hday : (n + 719468).fmod 146097 = (n + 719468) % 146097 :=
    Int.fmod_eq_emod_of_nonneg _ (by decide)
  obtain ⟨m, hm⟩ : ∃ m : Nat, (n + 719468) % 146097 = m :=
    Int.eq_ofNat_of_zero_le (Int.emod_nonneg _ (by decide))
  obtain ⟨y, r, hy, hyear, hr, hsplit⟩ := yearOfEra_spec (n := m) (by omega)
  have hr' : m - (365 * y + y / 4 - y / 100) = r := by omega
  unfold ofDays
  simp only [hera, hday, hm, Int.toNat_natCast, hy, hr']
  rw [toDays_shifted hyear (by omega) rfl]
  omega

end Date

/-! ### Texts -/

namespace Timestamp

open Text (paddedDigits)

/-- Reads a decimal number up to a separator. -/
def field? (sep : Char) (s : List Char) : Option (Nat × List Char) := do
  let (digits, rest) ← Text.splitOnce? sep s
  return (← Text.ofDigits? 10 digits, rest)

/-- Reads a year with its sign up to a hyphen. -/
def year? (s : List Char) : Option (Int × List Char) :=
  match s with
  | '-' :: rest => (field? '-' rest).map fun p => (-(p.1 : Int), p.2)
  | '+' :: rest => (field? '-' rest).map fun p => ((p.1 : Int), p.2)
  | _ => (field? '-' s).map fun p => ((p.1 : Int), p.2)

/-- Reads a point in time. The sixty-first second of a minute is a leap second. -/
def parse? (s : List Char) : Option Timestamp := do
  let (year, s) ← year? s
  let (month, s) ← field? '-' s
  let (day, s) ← field? 'T' s
  let (hour, s) ← field? ':' s
  let (minute, s) ← field? ':' s
  let (second, s) ← field? '.' s
  let (fraction, s) ← field? 'Z' s
  if !s.isEmpty then none
  let leap := if second = 60 then 1 else 0
  return {
    seconds := Date.toDays ⟨year, month, day⟩ * secondsOfDay +
      (hour * 3600 + minute * 60 + (second - leap) : Nat)
    nanoseconds := fraction + leap * 1000000000 }

/-- A point in time has less than a second of nanoseconds, or less than two of them if it is in a
leap second, which stands for the last second of a minute. -/
def IsProper (t : Timestamp) : Prop :=
  t.nanoseconds < 1000000000 ∨ t.nanoseconds < 2000000000 ∧ t.seconds % 60 = 59

theorem field?_padded {sep : Char} (hsep : sep.isDigit = false) (width n : Nat)
    (rest : List Char) : field? sep (paddedDigits 10 width n ++ sep :: rest) = some (n, rest) := by
  have hnot : sep ∉ paddedDigits 10 width n := by
    intro hmem
    rw [Text.isDigit_of_mem_padded hmem] at hsep
    cases hsep
  simp [field?, Text.splitOnce?_append hnot, Text.ofDigits?_padded]

theorem year?_of_head? {s : List Char} (hs : ∀ c ∈ s.head?, c ≠ '-' ∧ c ≠ '+') :
    year? s = (field? '-' s).map fun p => ((p.1 : Int), p.2) := by
  cases s with
  | nil => rfl
  | cons c s =>
    obtain ⟨hminus, hplus⟩ := hs c rfl
    simp [year?, hminus, hplus]

theorem year?_renderYear (year : Int) (rest : List Char) :
    year? ((Date.renderYear year).toList ++ '-' :: rest) = some (year, rest) := by
  have hfield := field?_padded (by decide : '-'.isDigit = false) 4 year.natAbs rest
  unfold Date.renderYear
  dsimp only
  split
  · have hyear : -(year.natAbs : Int) = year := by omega
    have htext : ("-" ++ Text.padded 4 year.natAbs).toList =
        '-' :: paddedDigits 10 4 year.natAbs := by
      simp [Text.padded]
    rw [htext, List.cons_append, year?, hfield, Option.map_some, hyear]
  · have hyear : (year.natAbs : Int) = year := by omega
    split
    · have htext : ("+" ++ Text.padded 4 year.natAbs).toList =
          '+' :: paddedDigits 10 4 year.natAbs := by
        simp [Text.padded]
      rw [htext, List.cons_append, year?, hfield, Option.map_some, hyear]
    · have hhead : ∀ c ∈ (paddedDigits 10 4 year.natAbs ++ '-' :: rest).head?,
          c ≠ '-' ∧ c ≠ '+' := by
        intro c hc
        have hsome : (paddedDigits 10 4 year.natAbs).head?.isSome :=
          List.isSome_head?.mpr (Text.padded_ne_nil 4 year.natAbs)
        rw [List.head?_append, Option.or_of_isSome hsome] at hc
        have hdigit := Text.isDigit_of_mem_padded (List.mem_of_head? hc)
        constructor <;> rintro rfl <;> cases hdigit
      rw [Text.padded, String.toList_ofList, year?_of_head? hhead, hfield, Option.map_some, hyear]

/-- The characters of a date and a time of that day. -/
def chars (date : Date) (hour minute second fraction : Nat) : List Char :=
  (Date.renderYear date.year).toList ++ '-' :: (paddedDigits 10 2 date.month ++
    '-' :: (paddedDigits 10 2 date.day ++ 'T' :: (paddedDigits 10 2 hour ++
      ':' :: (paddedDigits 10 2 minute ++ ':' :: (paddedDigits 10 2 second ++
        '.' :: (paddedDigits 10 9 fraction ++ ['Z']))))))

theorem toList_render {seconds : Int} {second : Nat}
    (hsecond : seconds.fmod secondsOfDay = second) (nanoseconds : Nat) :
    (render ⟨seconds, nanoseconds⟩).toList =
      chars (Date.ofDays (seconds.fdiv secondsOfDay)) (second / 3600) (second / 60 % 60)
        (second % 60 + if nanoseconds ≥ 1000000000 then 1 else 0)
        (nanoseconds - if nanoseconds ≥ 1000000000 then 1000000000 else 0) := by
  simp [render, chars, Text.padded, hsecond]

theorem parse?_chars (date : Date) (hour minute second fraction : Nat) :
    parse? (chars date hour minute second fraction) =
      some ⟨date.toDays * secondsOfDay +
          (hour * 3600 + minute * 60 + (second - if second = 60 then 1 else 0) : Nat),
        fraction + (if second = 60 then 1 else 0) * 1000000000⟩ := by
  simp [parse?, chars, year?_renderYear, field?_padded]

/-- The text form of a proper point in time tells which point it is. -/
theorem parse?_render {t : Timestamp} (h : t.IsProper) : parse? t.render.toList = some t := by
  obtain ⟨seconds, nanoseconds⟩ := t
  obtain ⟨second, hsecond⟩ : ∃ second : Nat, seconds.fmod secondsOfDay = second :=
    Int.eq_ofNat_of_zero_le (Int.fmod_nonneg_of_pos _ (by decide))
  have hsplit : secondsOfDay * seconds.fdiv secondsOfDay + second = seconds := by
    rw [← hsecond]
    exact Int.mul_fdiv_add_fmod seconds secondsOfDay
  have hlt : (second : Int) < secondsOfDay := by
    rw [← hsecond]
    exact Int.fmod_lt_of_pos _ (by decide)
  rw [toList_render hsecond, parse?_chars, Date.toDays_ofDays]
  generalize seconds.fdiv secondsOfDay = days at hsplit
  simp only [secondsOfDay] at hsplit hlt ⊢
  rw [Option.some.injEq, Timestamp.mk.injEq]
  have hproper : nanoseconds < 1000000000 ∨ nanoseconds < 2000000000 ∧ seconds % 60 = 59 := h
  by_cases hleap : nanoseconds ≥ 1000000000
  · have hlast : second % 60 = 59 := by omega
    rw [if_pos hleap, if_pos hleap, hlast, if_pos rfl]
    omega
  · have hplain : second % 60 ≠ 60 := by omega
    rw [if_neg hleap, if_neg hleap, Nat.add_zero, if_neg hplain]
    omega

end Timestamp

end FlowAudit
