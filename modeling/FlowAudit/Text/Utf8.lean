/-!
# Reading octets as text

`decodeLossy` reads any octets as UTF-8. What is not well formed is replaced: each longest start of
a character that is not completed, and each octet that starts no character, becomes one replacement
character `U+FFFD`.
-/

namespace FlowAudit.Text

/-- The character that replaces octets which are not text. -/
def replacement : Char := '\ufffd'

/-- A character of which some octets are read. -/
structure Utf8Prefix where
  /-- The bits read so far. -/
  value : Nat
  /-- The number of octets behind the next one. -/
  more : Nat
  /-- The range of the next octet. -/
  low : UInt8
  high : UInt8

/-- What an octet at the start of a character gives: characters, or the start of one. -/
def startUtf8 (b : UInt8) : List Char × Option Utf8Prefix :=
  let n := b.toNat
  if b < 0x80 then ([Char.ofNat n], none)
  else if 0xC2 ≤ b && b ≤ 0xDF then ([], some ⟨n - 0xC0, 0, 0x80, 0xBF⟩)
  else if b = 0xE0 then ([], some ⟨0, 1, 0xA0, 0xBF⟩)
  else if b = 0xED then ([], some ⟨0xD, 1, 0x80, 0x9F⟩)
  else if 0xE1 ≤ b && b ≤ 0xEF then ([], some ⟨n - 0xE0, 1, 0x80, 0xBF⟩)
  else if b = 0xF0 then ([], some ⟨0, 2, 0x90, 0xBF⟩)
  else if b = 0xF4 then ([], some ⟨4, 2, 0x80, 0x8F⟩)
  else if 0xF1 ≤ b && b ≤ 0xF3 then ([], some ⟨n - 0xF0, 2, 0x80, 0xBF⟩)
  else ([replacement], none)

/-- What a further octet gives. -/
def continueUtf8 (p : Utf8Prefix) (b : UInt8) : List Char × Option Utf8Prefix :=
  if p.low ≤ b && b ≤ p.high then
    let value := p.value * 64 + (b.toNat - 0x80)
    match p.more with
    | 0 => ([Char.ofNat value], none)
    | more + 1 => ([], some ⟨value, more, 0x80, 0xBF⟩)
  else
    let (chars, next) := startUtf8 b
    (replacement :: chars, next)

/-- Reads octets behind the start of a character. -/
def decodeLossyFrom (start : Option Utf8Prefix) : List UInt8 → List Char
  | [] => if start.isSome then [replacement] else []
  | b :: rest =>
    let (chars, next) := match start with
      | none => startUtf8 b
      | some p => continueUtf8 p b
    chars ++ decodeLossyFrom next rest

/-- Reads octets as UTF-8 and replaces what is not well formed. -/
def decodeLossy (octets : List UInt8) : List Char :=
  decodeLossyFrom none octets

end FlowAudit.Text
