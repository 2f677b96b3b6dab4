/-!
# Numbers written in positional notation

`ofDigits?` reads digits of any base up to thirty-six; `unsigned?` and `signed?` read a whole number
of a given range behind an optional sign. No other spelling is read: no blanks, no separators, no
sign of the wrong kind, and at least one digit.
-/

namespace FlowAudit.Text

/-- The value of a digit in bases up to thirty-six; letters count from ten in either case. -/
def digitValue? (c : Char) : Option Nat :=
  if '0' ≤ c && c ≤ '9' then some (c.toNat - '0'.toNat)
  else if 'a' ≤ c && c ≤ 'z' then some (c.toNat - 'a'.toNat + 10)
  else if 'A' ≤ c && c ≤ 'Z' then some (c.toNat - 'A'.toNat + 10)
  else none

/-- The value of `c` as a digit of `base`. -/
def digitOf? (base : Nat) (c : Char) : Option Nat :=
  (digitValue? c).filter (· < base)

/-- Whether `c` is a digit of `base`. -/
def isDigitOf (base : Nat) (c : Char) : Bool :=
  (digitOf? base c).isSome

/-- Reads digits of `base` behind those that make up `value`. -/
def ofDigitsFrom? (base value : Nat) : List Char → Option Nat
  | [] => some value
  | c :: rest => do ofDigitsFrom? base (value * base + (← digitOf? base c)) rest

/-- The number that a text of one or more digits of `base` stands for. -/
def ofDigits? (base : Nat) (s : List Char) : Option Nat :=
  if s.isEmpty then none else ofDigitsFrom? base 0 s

/-- A whole number at most `limit`, in digits of `base` behind an optional plus sign. -/
def unsigned? (base limit : Nat) (s : List Char) : Option Nat :=
  let digits := match s with
    | '+' :: rest => rest
    | _ => s
  (ofDigits? base digits).filter (· ≤ limit)

/-- A decimal number at least `low` and at most `high`, behind an optional sign. -/
def signed? (low high : Int) (s : List Char) : Option Int :=
  let value : Option Int := match s with
    | '+' :: rest => (ofDigits? 10 rest).map Int.ofNat
    | '-' :: rest => (ofDigits? 10 rest).map fun n => -(n : Int)
    | _ => (ofDigits? 10 s).map Int.ofNat
  value.filter fun n => low ≤ n && n ≤ high

/-- The largest number of `bits` bits. -/
def maxOfBits (bits : Nat) : Nat :=
  Nat.pow 2 bits - 1

/-- A decimal number of at most eight bits. -/
def byte? (s : List Char) : Option UInt8 :=
  (unsigned? 10 (maxOfBits 8) s).map UInt8.ofNat

/-- A decimal number of at most sixteen bits. -/
def word16? (s : List Char) : Option UInt16 :=
  (unsigned? 10 (maxOfBits 16) s).map UInt16.ofNat

/-! ### Writing -/

/-- The digit that stands for `n` in bases up to sixteen, in lower case. -/
def digitChar (n : Nat) : Char :=
  "0123456789abcdef".toList.getD n '0'

/-- The digits of `n` in `base`, most significant first. -/
def digits (base n : Nat) : List Char :=
  if base < 2 ∨ n < base then [digitChar n] else digits base (n / base) ++ [digitChar (n % base)]
termination_by n
decreasing_by
  rename_i h
  exact Nat.div_lt_self (by omega) (by omega)

/-- The digits of `n` in `base`, with zeros in front up to `width` digits. -/
def paddedDigits (base width n : Nat) : List Char :=
  let s := digits base n
  List.replicate (width - s.length) '0' ++ s

/-- A number in hexadecimal, with zeros in front up to `width` digits. -/
def hex (width n : Nat) : String :=
  String.ofList (paddedDigits 16 width n)

/-- A number in decimal, with zeros in front up to `width` digits. -/
def padded (width n : Nat) : String :=
  String.ofList (paddedDigits 10 width n)

end FlowAudit.Text
