import FlowAudit.Net.Notation
import FlowAudit.Url.Idna
import FlowAudit.Url.Percent

/-!
# Hosts of URLs

Under a special scheme a host is an IPv6 address in brackets, an IPv4 address, or a domain name; a
name whose last label is a number has to be an IPv4 address. IPv4 addresses are written with one to
four numbers, decimal, octal behind `0` or hexadecimal behind `0x`, of which the last one fills the
rest of the address. Under other schemes a host is an IPv6 address in brackets or any text without
certain characters.
-/

namespace FlowAudit

/-- Why a text is not a URL. -/
inductive UrlError where
  /-- There is no scheme in front. -/
  | relative
  | emptyHost
  | invalidPort
  | invalidIpv4
  | invalidIpv6
  /-- The host is not a domain name. -/
  | invalidName
  /-- The host holds a character that no host may hold. -/
  | invalidCharacter
  deriving DecidableEq, Repr, Inhabited

/-- The text shown for an error. -/
def UrlError.message : UrlError → String
  | .relative => "relative URL without a base"
  | .emptyHost => "empty host"
  | .invalidPort => "invalid port number"
  | .invalidIpv4 => "invalid IPv4 address"
  | .invalidIpv6 => "invalid IPv6 address"
  | .invalidName => "invalid international domain name"
  | .invalidCharacter => "invalid domain character"

namespace Url

/-- A host that is not empty. -/
inductive Host where
  /-- A domain name in the form in which it is looked up or, under other schemes, an encoded text. -/
  | name (text : String)
  | ipv4 (address : Ipv4)
  | ipv6 (address : Ipv6)
  deriving DecidableEq, Repr, Inhabited

namespace Host

/-- The text of a host. -/
def render : Host → String
  | .name text => text
  | .ipv4 address => address.render
  | .ipv6 address => "[" ++ address.renderCompressed ++ "]"

/-! ### IPv4 addresses -/

/-- The base of a number and its digits. -/
def baseAndDigits (part : List Char) : Nat × List Char :=
  match part with
  | '0' :: 'x' :: rest => (16, rest)
  | '0' :: 'X' :: rest => (16, rest)
  | '0' :: c :: rest => (8, c :: rest)
  | _ => (10, part)

/-- Reads a number of an IPv4 address. A hexadecimal number may lack its digits. -/
def readNumber? (part : List Char) : Option Nat :=
  if part.isEmpty then none
  else
    let (base, digits) := baseAndDigits part
    if digits.isEmpty then some 0 else Text.ofDigits? base digits

/-- The labels of a domain name, without an empty one at the end. -/
def parts (domain : List Char) : List (List Char) :=
  let labels := Idna.labels domain
  if labels.length > 1 && labels.getLast? = some [] then labels.dropLast else labels

/-- Whether the last label of a domain name is a number, so that the name has to be an address. -/
def endsInNumber (domain : List Char) : Bool :=
  match (parts domain).getLast? with
  | some last => !last.isEmpty && (last.all Char.isDigit || (readNumber? last).isSome)
  | none => false

/-- The value of the numbers of an address, of which the first is that of the highest octet. The last
number fills the octets that are left; `none` when a number is too large for its place. -/
def valueOf? (place value : Nat) : List Nat → Option Nat
  | [] => none
  | [last] => if last < Nat.pow 256 (4 - place) then some (value + last) else none
  | n :: rest =>
    if n ≤ 255 then valueOf? (place + 1) (value + n * Nat.pow 256 (3 - place)) rest else none

/-- Reads an IPv4 address. -/
def parseIpv4? (domain : List Char) : Option Ipv4 := do
  let parts := parts domain
  if parts.length > 4 then none
  return .ofNat (← valueOf? 0 0 (← parts.mapM readNumber?))

/-! ### All hosts -/

/-- Reads an IPv6 address between brackets. -/
def parseBrackets (s : List Char) : Except UrlError Host :=
  if s.getLast? = some ']' then
    match Ipv6.parse? (s.drop 1).dropLast with
    | some x => .ok (.ipv6 x)
    | none => .error .invalidIpv6
  else
    .error .invalidIpv6

/-- Reads a host under a special scheme. -/
def parseSpecial (s : List Char) : Except UrlError Host :=
  if s.head? = some '[' then
    parseBrackets s
  else
    match String.fromUTF8? ⟨(decode s).toArray⟩ with
    | none => .error .invalidName
    | some text =>
      match Idna.toAscii? text.toList with
      | none => .error .invalidName
      | some [] => .error .emptyHost
      | some domain =>
        if endsInNumber domain then
          match parseIpv4? domain with
          | some x => .ok (.ipv4 x)
          | none => .error .invalidIpv4
        else
          .ok (.name (String.ofList domain))

/-- The characters that no host may hold. -/
def isForbidden (c : Char) : Bool :=
  "\x00\t\n\r #/:<>?@[\\]^|".toList.contains c

/-- Reads a host under another scheme; there may be none. -/
def parseOther (s : List Char) : Except UrlError (Option Host) :=
  if s.isEmpty then .ok none
  else if s.head? = some '[' then (parseBrackets s).map some
  else if s.any isForbidden then .error .invalidCharacter
  else .ok (some (.name (String.ofList (encode isControl s))))

end Host

end Url

end FlowAudit
