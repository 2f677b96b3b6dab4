import FlowAudit.Text.Numeral

/-!
# JSON values and their compact text

A number keeps the form it was written in, because readers of a value treat `1` and `1.0`
differently. `Json.render` writes a value without blanks; strings are written with the fewest
escapes: the quote, the backslash and the characters below `U+0020`.
-/

namespace FlowAudit

/-- A number as it is written in a JSON text. -/
inductive Json.Number where
  /-- A number without fraction and exponent. Minus zero differs from zero. -/
  | whole (negative : Bool) (magnitude : Nat)
  /-- The number `mantissa * 10 ^ exponent`, written with a fraction or an exponent. -/
  | decimal (negative : Bool) (mantissa : Nat) (exponent : Int)
  deriving DecidableEq, Repr, Inhabited

/-- A JSON value. Objects keep the order of their members, and repeated names. -/
inductive Json where
  | null
  | bool (value : Bool)
  | number (value : Json.Number)
  | string (text : String)
  /-- A string that names a lone half of a surrogate pair: well formed, but without a text. -/
  | unpairedString
  | array (items : List Json)
  | object (members : List (String × Json))
  deriving Repr, Inhabited

namespace Json

/-! ### Building values -/

/-- A natural number. -/
def ofNat (n : Nat) : Json :=
  .number (.whole false n)

/-- A whole number. -/
def ofInt (n : Int) : Json :=
  .number (.whole (n < 0) n.natAbs)

/-- The value of an optional part, null when it is absent. -/
def ofOption {α : Type} (encode : α → Json) (value : Option α) : Json :=
  (value.map encode).getD .null

/-! ### Looking into values -/

/-- The first member of an object with the given name. -/
def member? (name : String) : Json → Option Json
  | .object members => members.lookup name
  | _ => none

/-- The whole number that a number stands for, if it is written without fraction and exponent;
minus zero is not one. -/
def Number.toInt? : Number → Option Int
  | .whole false n => some n
  | .whole true 0 => none
  | .whole true n => some (-(n : Int))
  | .decimal .. => none

/-! ### Writing -/

/-- A character inside a quoted string, as a list of characters. -/
def escape (c : Char) : List Char :=
  match c with
  | '"' => ['\\', '"']
  | '\\' => ['\\', '\\']
  | '\n' => ['\\', 'n']
  | '\r' => ['\\', 'r']
  | '\t' => ['\\', 't']
  | '\x08' => ['\\', 'b']
  | '\x0c' => ['\\', 'f']
  | c => if c.toNat < 0x20 then ['\\', 'u'] ++ Text.paddedDigits 16 4 c.toNat else [c]

/-- A quoted string. -/
def quote (s : String) : String :=
  String.ofList ('"' :: (s.toList.flatMap escape ++ ['"']))

/-- The text of a number. -/
def Number.render : Number → String
  | .whole negative n => (if negative then "-" else "") ++ toString n
  | .decimal negative m e => (if negative then "-" else "") ++ toString m ++ "e" ++ toString e

mutual

/-- The text of a value, without blanks. -/
def render : Json → String
  | .null => "null"
  | .bool b => if b then "true" else "false"
  | .number n => n.render
  | .string s => quote s
  | .unpairedString => quote "\ufffd"
  | .array items => "[" ++ renderItems "" items ++ "]"
  | .object members => "\x7b" ++ renderMembers "" members ++ "\x7d"

/-- The texts of the items of an array, each behind a separator, which is `separator` for the
first and a comma for the others. -/
def renderItems (separator : String) : List Json → String
  | [] => ""
  | item :: rest => separator ++ render item ++ renderItems "," rest

/-- The texts of the members of an object, set apart like the items of an array. -/
def renderMembers (separator : String) : List (String × Json) → String
  | [] => ""
  | (name, value) :: rest =>
    separator ++ quote name ++ ":" ++ render value ++ renderMembers "," rest

end

end Json

end FlowAudit
