import FlowAudit.Text.Numeral

/-!
# Percent encoding

An octet is encoded as `%` and two hexadecimal digits in capitals. What has to be encoded depends on
the part of the URL; characters that are not ASCII, and controls, always have to, octet by octet.
-/

namespace FlowAudit.Url

/-- Whether a character is a control of ASCII or not in ASCII at all. -/
def isControl (c : Char) : Bool :=
  c.toNat < 0x20 || c.toNat ≥ 0x7F

/-- What is encoded in a fragment. -/
def inFragment (c : Char) : Bool :=
  isControl c || " \"<>`".toList.contains c

/-- What is encoded in a path. -/
def inPath (c : Char) : Bool :=
  inFragment c || "#?\x7b\x7d".toList.contains c

/-- What is encoded in the name and the password of a user. -/
def inUserInfo (c : Char) : Bool :=
  inPath c || "/:;=@[\\]^|".toList.contains c

/-- What is encoded in a query; the apostrophe only under special schemes. -/
def inQuery (special : Bool) (c : Char) : Bool :=
  isControl c || " \"#<>".toList.contains c || (special && c = '\'')

/-- An octet, encoded. -/
def encodeOctet (o : UInt8) : List Char :=
  '%' :: (Text.paddedDigits 16 2 o.toNat).map Char.toUpper

/-- A character, encoded if it has to be. -/
def encodeChar (set : Char → Bool) (c : Char) : List Char :=
  if set c then (String.utf8EncodeChar c).flatMap encodeOctet else [c]

/-- A text with the characters encoded that have to be. -/
def encode (set : Char → Bool) (s : List Char) : List Char :=
  s.flatMap (encodeChar set)

/-- The octets of a text, with those that are encoded as what they stand for. A `%` without two
digits stands for itself. -/
def decode : List Char → List UInt8
  | '%' :: a :: b :: rest =>
    match Text.digitOf? 16 a, Text.digitOf? 16 b with
    | some x, some y => UInt8.ofNat (16 * x + y) :: decode rest
    | _, _ => '%'.toUInt8 :: decode (a :: b :: rest)
  | c :: rest => String.utf8EncodeChar c ++ decode rest
  | [] => []

end FlowAudit.Url
