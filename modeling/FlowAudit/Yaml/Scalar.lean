import FlowAudit.Number.Rounding
import FlowAudit.Text.Blank
import FlowAudit.Text.Numeral
import FlowAudit.Yaml.Node

/-!
# What scalars stand for

A plain scalar is null, a truth value, a whole number or another number if it is written like one, and
a text otherwise. A scalar in quotes or in a block is a text. A tag can ask for one of these kinds.
-/

namespace FlowAudit.Yaml

/-! ### Tags -/

/-- The tag of one of YAML's own kinds. -/
def standardTag (kind : String) : String :=
  "tag:yaml.org,2002:" ++ kind

/-- Whether a tag is one of the program that reads the text. -/
def isLocalTag (tag : String) : Bool :=
  tag.toList.head? = some '!'

/-! ### Plain scalars -/

/-- Whether a text is written like null. -/
def isNull (s : String) : Bool :=
  ["null", "Null", "NULL", "~"].contains s

/-- The truth value that a text is written like. -/
def bool? (s : String) : Option Bool :=
  if ["true", "True", "TRUE"].contains s then some true
  else if ["false", "False", "FALSE"].contains s then some false
  else none

/-- A text without the one sign that may stand in front of a number. -/
def dropSign : List Char → List Char
  | '+' :: rest | '-' :: rest => rest
  | s => s

/-- Whether a text is made of digits but no number, for a zero in front of them. -/
def isPaddedNumber (s : List Char) : Bool :=
  match dropSign s with
  | '0' :: d :: rest => d.isDigit && rest.all Char.isDigit
  | _ => false

/-- The base that a text in front of digits asks for, and the digits. -/
def readBase? : List Char → Option (Nat × List Char)
  | '0' :: 'x' :: digits => some (16, digits)
  | '0' :: 'o' :: digits => some (8, digits)
  | '0' :: 'b' :: digits => some (2, digits)
  | _ => none

/-- The whole number without sign that a text is written like. -/
def natural? (s : List Char) : Option Nat :=
  let digits := match s with
    | '+' :: rest => rest
    | _ => s
  match readBase? digits with
  | some (base, digits) => Text.ofDigits? base digits
  | none => if isPaddedNumber s then none else Text.ofDigits? 10 digits

/-- The magnitude of the whole number behind a minus sign that a text is written like. -/
def negated? : List Char → Option Nat
  | '-' :: digits =>
    match readBase? digits with
    | some (base, digits) => Text.ofDigits? base digits
    | none => if isPaddedNumber ('-' :: digits) then none else Text.ofDigits? 10 digits
  | _ => none

/-- The number in decimal that a text is written like, as a mantissa and an exponent, both without
sign of the number. -/
def decimal? (s : List Char) : Option (Nat × Int) := do
  let (whole, s) := s.span Char.isDigit
  let (fraction, s) := match s with
    | '.' :: rest => rest.span Char.isDigit
    | _ => ([], s)
  let mantissa ← Text.ofDigits? 10 (whole ++ fraction)
  match s with
  | [] => return (mantissa, -fraction.length)
  | e :: rest =>
    if e = 'e' || e = 'E' then
      let magnitude ← Text.ofDigits? 10 (dropSign rest)
      let exponent : Int := if rest.head? = some '-' then -magnitude else magnitude
      return (mantissa, exponent - fraction.length)
    else
      none

/-- Whether a text is written like a number that need not be whole. A number that is too large is
none. -/
def isDecimal (s : List Char) : Bool :=
  let positive := match s with
    | '+' :: rest => rest
    | _ => s
  if s.head? = some '+' && (positive.head? = some '+' || positive.head? = some '-') then false
  else if [".inf", ".Inf", ".INF"].contains (String.ofList (dropSign s)) then true
  else if [".nan", ".NaN", ".NAN"].contains (String.ofList s) then true
  else
    match decimal? (dropSign s) with
    | some (mantissa, exponent) => Number.isInRange mantissa exponent
    | none => false

/-! ### Values -/

/-- What a scalar stands for, as far as it is of use where any value may stand. -/
inductive ScalarValue where
  | text (s : String)
  /-- A whole number without sign. -/
  | natural (n : Nat)
  /-- Null, a truth value, or another number. -/
  | other
  deriving DecidableEq, Repr, Inhabited

/-- The value of a text that is written like a whole number; `none` when it is not. Numbers that only
fit into more than sixty-four bits are refused (`some none`). -/
def wholeValue? (s : List Char) : Option (Option ScalarValue) :=
  match natural? s, negated? s with
  | some n, _ =>
    if n ≤ Text.maxOfBits 64 then some (some (.natural n))
    else if n ≤ Text.maxOfBits 128 then some none
    else none
  | none, some n =>
    if n ≤ Nat.pow 2 63 then some (some .other)
    else if n ≤ Nat.pow 2 127 then some none
    else none
  | none, none => none

/-- The value of a plain scalar without tag. -/
def plainValue? (s : String) : Option ScalarValue :=
  if s = "" || isNull s || (bool? s).isSome then some .other
  else
    match wholeValue? s.toList with
    | some value => value
    | none =>
      if !isPaddedNumber s.toList && isDecimal s.toList then some .other else some (.text s)

/-- The value of a scalar. A local tag asks for something that is no value here. -/
def scalarValue? (tag : Option String) (style : ScalarStyle) (s : String) : Option ScalarValue :=
  match tag with
  | none => if style = .plain then plainValue? s else some (.text s)
  | some t =>
    if isLocalTag t then none
    else if t = standardTag "bool" then if (bool? s).isSome then some .other else none
    else if t = standardTag "int" then (wholeValue? s.toList).bind id
    else if t = standardTag "float" then if isDecimal s.toList then some .other else none
    else if t = standardTag "null" then if isNull s then some .other else none
    else some (.text s)

/-- Whether a scalar may stand where a value of one kind is asked for: it is plain, or a literal block
with the tag of that kind. -/
def standsFor (kind : String) (tag : Option String) (style : ScalarStyle) : Bool :=
  style = .plain || (style = .literal && tag = some (standardTag kind))

end FlowAudit.Yaml
