import FlowAudit.Json
import FlowAudit.Text.Blank

/-!
# Reading JSON texts

`Json.parse?` accepts exactly the texts of RFC 8259: one value between blanks. The readers below
take the rest of the text and return what they have read together with what follows it. The two
that nest, `readItems` and `readMembers`, take a budget of steps; a value costs at most one step
for each of its characters, so the length of the text is always enough.
-/

namespace FlowAudit.Json

/-! ### Blanks and words -/

/-- The blanks of JSON. -/
def isGap (c : Char) : Bool :=
  c = ' ' || c = '\n' || c = '\r' || c = '\t'

/-- Drops the blanks at the front. -/
def skipGap (s : List Char) : List Char :=
  s.dropWhile isGap

/-! ### Strings -/

/-- The value of four hexadecimal digits at the front. -/
def readUnit? : List Char → Option (Nat × List Char)
  | a :: b :: c :: d :: rest => do
    return (← Text.ofDigits? 16 [a, b, c, d], rest)
  | _ => none

/-- One character of a string, or the lone half of a surrogate pair (`none`). -/
abbrev StringItem := Option Char

/-- Whether a unit is the first half of a surrogate pair. -/
def isHighSurrogate (n : Nat) : Bool :=
  0xD800 ≤ n && n ≤ 0xDBFF

/-- Whether a unit is the second half of a surrogate pair. -/
def isLowSurrogate (n : Nat) : Bool :=
  0xDC00 ≤ n && n ≤ 0xDFFF

/-- Reads what follows `\u`. The second half of a surrogate pair is looked for only behind a first
half. -/
def readUnicodeEscape? (s : List Char) : Option (StringItem × List Char) := do
  let (n, rest) ← readUnit? s
  if isHighSurrogate n then
    match rest with
    | '\\' :: 'u' :: rest' =>
      let (m, rest'') ← readUnit? rest'
      if isLowSurrogate m then
        return (some (Char.ofNat (0x10000 + (n - 0xD800) * 0x400 + (m - 0xDC00))), rest'')
      else
        return (none, rest'')
    | _ => return (none, rest)
  else if isLowSurrogate n then
    return (none, rest)
  else
    return (some (Char.ofNat n), rest)

/-- Reads what follows a backslash. -/
def readEscape? : List Char → Option (StringItem × List Char)
  | '"' :: rest => some (some '"', rest)
  | '\\' :: rest => some (some '\\', rest)
  | '/' :: rest => some (some '/', rest)
  | 'b' :: rest => some (some '\x08', rest)
  | 'f' :: rest => some (some '\x0c', rest)
  | 'n' :: rest => some (some '\n', rest)
  | 'r' :: rest => some (some '\r', rest)
  | 't' :: rest => some (some '\t', rest)
  | 'u' :: rest => readUnicodeEscape? rest
  | _ => none

/-- Reads a string behind its opening quote, with a budget of steps. `done` holds the characters
read so far, in reverse, or nothing when one of them has no text. -/
def readString? : Nat → Option (List Char) → List Char → Option (Option String × List Char)
  | _, done, '"' :: rest => some (done.map fun cs => String.ofList cs.reverse, rest)
  | budget + 1, done, '\\' :: rest => do
    let (item, rest') ← readEscape? rest
    readString? budget (do return (← item) :: (← done)) rest'
  | budget + 1, done, c :: rest =>
    if c.toNat < 0x20 then none else readString? budget (done.map (c :: ·)) rest
  | _, _, _ => none

/-! ### Numbers -/

/-- Splits off the decimal digits at the front. -/
def readDigits (s : List Char) : List Char × List Char :=
  s.span Char.isDigit

/-- Reads the exponent of a number, if there is one. -/
def readExponent? (s : List Char) : Option (Option Int × List Char) :=
  match s with
  | c :: rest =>
    if c = 'e' || c = 'E' then
      let (negative, rest) := match rest with
        | '-' :: rest => (true, rest)
        | '+' :: rest => (false, rest)
        | _ => (false, rest)
      let (ds, rest) := readDigits rest
      (Text.ofDigits? 10 ds).map fun n => (some (if negative then -(n : Int) else n), rest)
    else
      some (none, s)
  | [] => some (none, s)

/-- Reads the fraction of a number, if there is one: its digits. -/
def readFraction? (s : List Char) : Option (List Char × List Char) :=
  match s with
  | '.' :: rest =>
    let (ds, rest) := readDigits rest
    if ds.isEmpty then none else some (ds, rest)
  | _ => some ([], s)

/-- Reads a number. Zeros in front are refused. -/
def readNumber? (s : List Char) : Option (Number × List Char) := do
  let (negative, s) := match s with
    | '-' :: rest => (true, rest)
    | _ => (false, s)
  let (ds, s) := readDigits s
  if ds.head? = some '0' && ds.length > 1 then none
  let (fraction, s) ← readFraction? s
  let (exponent, s) ← readExponent? s
  let mantissa ← Text.ofDigits? 10 ds
  if fraction.isEmpty && exponent.isNone then
    return (.whole negative mantissa, s)
  else
    let scaled ← Text.ofDigits? 10 (ds ++ fraction)
    return (.decimal negative scaled (exponent.getD 0 - fraction.length), s)

/-! ### Values -/

/-- A string value: one with a lone half of a surrogate pair has no text. -/
def ofText? : Option String → Json
  | some s => .string s
  | none => .unpairedString

mutual

/-- Reads a value, with a budget of steps, behind blanks. -/
def readValue? : Nat → List Char → Option (Json × List Char)
  | 0, _ => none
  | budget + 1, s =>
    match skipGap s with
    | '"' :: rest => do
      let (text, rest') ← readString? rest.length (some []) rest
      return (ofText? text, rest')
    | '[' :: rest =>
      match skipGap rest with
      | ']' :: rest' => some (.array [], rest')
      | rest' => do
        let (items, rest'') ← readItems? budget rest' []
        return (.array items, rest'')
    | '\x7b' :: rest =>
      match skipGap rest with
      | '\x7d' :: rest' => some (.object [], rest')
      | rest' => do
        let (members, rest'') ← readMembers? budget rest' []
        return (.object members, rest'')
    | rest =>
      match Text.after? "null".toList rest with
      | some rest' => some (.null, rest')
      | none =>
        match Text.after? "true".toList rest with
        | some rest' => some (.bool true, rest')
        | none =>
          match Text.after? "false".toList rest with
          | some rest' => some (.bool false, rest')
          | none => (readNumber? rest).map fun p => (.number p.1, p.2)

/-- Reads the items of an array up to its closing bracket; `done` holds those read so far, in
reverse. -/
def readItems? : Nat → List Char → List Json → Option (List Json × List Char)
  | 0, _, _ => none
  | budget + 1, s, done => do
    let (item, rest) ← readValue? budget s
    match skipGap rest with
    | ',' :: rest' => readItems? budget rest' (item :: done)
    | ']' :: rest' => some ((item :: done).reverse, rest')
    | _ => none

/-- Reads the members of an object up to its closing brace; `done` holds those read so far, in
reverse. -/
def readMembers? : Nat → List Char → List (String × Json) →
    Option (List (String × Json) × List Char)
  | 0, _, _ => none
  | budget + 1, s, done =>
    match skipGap s with
    | '"' :: rest => do
      let (name?, rest) ← readString? rest.length (some []) rest
      let name ← name?
      match skipGap rest with
      | ':' :: rest => do
        let (value, rest) ← readValue? budget rest
        match skipGap rest with
        | ',' :: rest => readMembers? budget rest ((name, value) :: done)
        | '\x7d' :: rest => some (((name, value) :: done).reverse, rest)
        | _ => none
      | _ => none
    | _ => none

end

/-- The value that a JSON text stands for. -/
def parse? (s : String) : Option Json := do
  let cs := s.toList
  let (value, rest) ← readValue? (cs.length + 1) cs
  if (skipGap rest).isEmpty then some value else none

end FlowAudit.Json
