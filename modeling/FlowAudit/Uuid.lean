import FlowAudit.Text.Blank
import FlowAudit.Text.Numeral

/-!
# Universally unique identifiers

An identifier has 128 bits. It is written as thirty-two lower-case hexadecimal digits in groups of
8, 4, 4, 4 and 12 set apart by hyphens; reading also accepts the digits alone, braces around the grouped
form, the name space `urn:uuid:` in front of it, and capitals in all of these.
-/

namespace FlowAudit

/-- An identifier, by the upper and the lower half of its bits. -/
structure Uuid where
  high : UInt64
  low : UInt64
  deriving DecidableEq, Hashable, Repr, Inhabited

namespace Uuid

/-- The identifier whose bits are all zero. -/
def nil : Uuid := ⟨0, 0⟩

/-- The identifier made of random bits, six of which say that it is made so. -/
def ofRandom (high low : UInt64) : Uuid :=
  ⟨high &&& 0xffffffffffff0fff ||| 0x4000, low &&& 0x3fffffffffffffff ||| 0x8000000000000000⟩

/-- Hyphens between the groups of thirty-two digits. -/
def group (digits : List Char) : List Char :=
  digits.take 8 ++ '-' :: (digits.drop 8).take 4 ++ '-' :: (digits.drop 12).take 4 ++
    '-' :: (digits.drop 16).take 4 ++ '-' :: digits.drop 20

/-- The text form. -/
def render (u : Uuid) : String :=
  String.ofList
    (group (Text.paddedDigits 16 16 u.high.toNat ++ Text.paddedDigits 16 16 u.low.toNat))

/-- The identifier with the given thirty-two digits. -/
def ofDigits? (digits : List Char) : Option Uuid := do
  if digits.length ≠ 32 then none
  let high ← Text.ofDigits? 16 (digits.take 16)
  let low ← Text.ofDigits? 16 (digits.drop 16)
  return ⟨UInt64.ofNat high, UInt64.ofNat low⟩

/-- The digits of a grouped form; `none` when the hyphens stand elsewhere. -/
def ungroup? (s : List Char) : Option (List Char) :=
  let digits := s.filter (· ≠ '-')
  if group digits = s then some digits else none

/-- The identifier with the given text form. -/
def parse? (s : List Char) : Option Uuid := do
  match s.length with
  | 32 => ofDigits? s
  | 36 => ofDigits? (← ungroup? s)
  | 38 =>
    let rest ← Text.after? ['\x7b'] s
    if rest.getLast? = some '\x7d' then ofDigits? (← ungroup? rest.dropLast) else none
  | 45 =>
    let nameSpace := "urn:uuid:".toList
    if (s.take nameSpace.length).map Char.toLower = nameSpace then
      ofDigits? (← ungroup? (s.drop nameSpace.length))
    else
      none
  | _ => none

end Uuid

end FlowAudit
