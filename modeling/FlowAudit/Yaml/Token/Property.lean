import FlowAudit.Text.Utf8
import FlowAudit.Yaml.Token
import FlowAudit.Yaml.Token.Scalar

/-!
# Reading anchors, tags and directives

An anchor gives a node a name by which aliases refer to it. A tag says what a node is; it is a handle
and a suffix, where a handle stands for the start of many tags, or the whole tag in angle brackets.
A directive in front of a document gives the version of YAML or a handle for tags.
-/

namespace FlowAudit.Yaml

/-! ### Anchors -/

/-- Whether a character may follow the name of an anchor directly. -/
def mayFollowName (c : Char) : Bool :=
  ['?', ':', ',', ']', '\x7d', '%', '@', Char.ofNat 0x60].contains c

/-- Reads the name of an anchor or an alias behind its indicator. -/
def readAnchorName? (c : Cursor) : Option (String × Cursor) :=
  let (name, c) := c.span isNameChar
  if name.isEmpty || !(endsWord c.rest || c.head?.any mayFollowName) then none
  else some (String.ofList name, c)

/-! ### Tags -/

/-- Reads an octet written as two digits behind a percent sign. -/
def readOctet? (c : Cursor) : Option (UInt8 × Cursor) :=
  match c.rest with
  | '%' :: a :: b :: _ => do
    return (UInt8.ofNat (← Text.ofDigits? 16 [a, b]), c.skip 3)
  | _ => none

/-- The number of octets of a character that starts with the given one. -/
def octetCount? (first : UInt8) : Option Nat :=
  if first < 0x80 then some 1
  else if first &&& 0xE0 = 0xC0 then some 2
  else if first &&& 0xF0 = 0xE0 then some 3
  else if first &&& 0xF8 = 0xF0 then some 4
  else none

/-- Reads `n` octets that continue a character. -/
def readOctets? : Nat → Cursor → Option (List UInt8 × Cursor)
  | 0, c => some ([], c)
  | n + 1, c => do
    let (octet, c) ← readOctet? c
    if octet &&& 0xC0 ≠ 0x80 then none
    let (octets, c) ← readOctets? n c
    return (octet :: octets, c)

/-- Reads a character whose octets are written as numbers. -/
def readEncodedChar? (c : Cursor) : Option (List Char × Cursor) := do
  let (first, c) ← readOctet? c
  let (octets, c) ← readOctets? ((← octetCount? first) - 1) c
  return (Text.decodeLossy (first :: octets), c)

/-- Reads the characters of a tag behind those in `done`, which are in reverse. -/
def readTagChars? (inAngles : Bool) : Nat → List Char → Cursor → Option (List Char × Cursor)
  | 0, _, _ => none
  | budget + 1, done, c =>
    match c.head? with
    | none => some (done.reverse, c)
    | some ch =>
      if ch = '%' then do
        let (chars, c) ← readEncodedChar? c
        readTagChars? inAngles budget (chars.reverse ++ done) c
      else if isTagChar ch || (inAngles && [',', '[', ']'].contains ch) then
        readTagChars? inAngles budget (ch :: done) (c.skip 1)
      else
        some (done.reverse, c)

/-- Reads a tag, or a part of one, which must not be empty. -/
def readTagText? (inAngles : Bool) (c : Cursor) : Option (String × Cursor) := do
  let (chars, c) ← readTagChars? inAngles (c.rest.length + 1) [] c
  if chars.isEmpty then none
  return (String.ofList chars, c)

/-- Reads a word behind an exclamation mark, and whether it ends with another one. -/
def readHandle? (c : Cursor) : Option (List Char × Bool × Cursor) :=
  match c.rest with
  | '!' :: _ =>
    let (word, c) := (c.skip 1).span isNameChar
    if c.head? = some '!' then some (word, true, c.skip 1) else some (word, false, c)
  | _ => none

/-- The handle of the tags in brackets and of the tag that is an exclamation mark alone. -/
def noHandle : String := ""

/-- The handle of local tags. -/
def localHandle : String := "!"

/-- The text of a handle with a name. -/
def namedHandle (word : List Char) : String :=
  String.ofList ('!' :: word ++ ['!'])

/-- Reads a tag: its handle and the rest of it. -/
def readTag? (inFlow : Bool) (c : Cursor) : Option (Token × Cursor) := do
  let (token, c) ← match c.rest with
    | '!' :: '<' :: _ => do
      let (text, c) ← readTagText? true (c.skip 2)
      if c.head? = some '>' then pure (Token.tag noHandle text, c.skip 1) else none
    | _ => do
      let (word, closed, c) ← readHandle? c
      if closed then
        let (suffix, c) ← readTagText? false c
        pure (Token.tag (namedHandle word) suffix, c)
      else
        let (chars, c) ← readTagChars? false (c.rest.length + 1) [] c
        if word.isEmpty && chars.isEmpty then pure (Token.tag noHandle "!", c)
        else pure (Token.tag localHandle (String.ofList (word ++ chars)), c)
  if endsWord c.rest || (inFlow && c.head? = some ',') then some (token, c) else none

/-! ### Directives -/

/-- The longest number in a version. -/
def maxVersionDigits : Nat := 9

/-- Reads a number in a version. -/
def readVersionNumber? (c : Cursor) : Option (Nat × Cursor) := do
  let (digits, c) := c.span Char.isDigit
  if digits.length > maxVersionDigits then none
  return (← Text.ofDigits? 10 digits, c)

/-- Reads a version. -/
def readVersion? (c : Cursor) : Option (Token × Cursor) := do
  let (major, c) ← readVersionNumber? (c.skipWhile isGap)
  if c.head? ≠ some '.' then none
  let (minor, c) ← readVersionNumber? (c.skip 1)
  return (.version major minor, c)

/-- Reads a handle for tags and what it stands for. -/
def readTagHandle? (c : Cursor) : Option (Token × Cursor) := do
  let (word, closed, c) ← readHandle? (c.skipWhile isGap)
  if !closed && !word.isEmpty then none
  if !c.isAtGap then none
  let (start, c) ← readTagText? true (c.skipWhile isGap)
  if !endsWord c.rest then none
  return (.tagHandle (if closed then namedHandle word else localHandle) start, c)

/-- Reads a directive behind its percent sign, with the rest of its line. -/
def readDirective? (c : Cursor) : Option (Token × Cursor) := do
  let (name, c) := c.span isNameChar
  if !endsWord c.rest then none
  let (token, c) ←
    if name = "YAML".toList then readVersion? c
    else if name = "TAG".toList then readTagHandle? c
    else none
  return (token, ← c.finishLine?)

end FlowAudit.Yaml
