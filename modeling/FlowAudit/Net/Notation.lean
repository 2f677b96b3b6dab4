import FlowAudit.Net.Address
import FlowAudit.Text.Blank
import FlowAudit.Text.Numeral

/-!
# The text forms of internet addresses

IPv4 addresses are written as four decimal octets, none with a zero in front. IPv6 addresses are
written in the form of RFC 5952: groups in lower-case hexadecimal without zeros in front, the
longest run of two or more zero groups (the first of them, if there are several) shortened to `::`,
and mapped addresses with their last two groups as an IPv4 address. Reading accepts every form of
RFC 4291.
-/

namespace FlowAudit

/-! ### Writing -/

/-- The four octets in decimal, set apart by dots. -/
def Ipv4.render (x : Ipv4) : String :=
  ".".intercalate (x.octets.map fun o => toString o.toNat)

namespace Ipv6

/-- Groups in hexadecimal, set apart by colons. -/
def renderGroups (groups : List UInt16) : String :=
  ":".intercalate (groups.map fun g => Text.hex 1 g.toNat)

/-- The length of the run of zero groups at the front. -/
def zeroRun (groups : List UInt16) : Nat :=
  (groups.takeWhile (· == 0)).length

/-- Where the longest run of zero groups starts, and how long it is; the first one of several. The
search starts at position `start`, with the best run found before. -/
def longestZeroRun (start : Nat) (best : Nat × Nat) : List UInt16 → Nat × Nat
  | [] => best
  | g :: rest =>
    let run := zeroRun (g :: rest)
    longestZeroRun (start + 1) (if run > best.2 then (start, run) else best) rest

/-- The groups in hexadecimal with the longest run of zero groups shortened. -/
def renderCompressed (x : Ipv6) : String :=
  let (start, run) := longestZeroRun 0 (0, 0) x.groups
  if run > 1 then
    renderGroups (x.groups.take start) ++ "::" ++ renderGroups (x.groups.drop (start + run))
  else
    renderGroups x.groups

/-- The text form, which shows a mapped address with dots. -/
def render (x : Ipv6) : String :=
  match x.mapped? with
  | some y => "::ffff:" ++ y.render
  | none => x.renderCompressed

end Ipv6

/-- The text form of an address of either family. -/
def IpAddress.render : IpAddress → String
  | .v4 x => x.render
  | .v6 x => x.render

/-! ### Reading -/

namespace Ipv4

/-- Reads an octet: one to three decimal digits without a zero in front. -/
def readOctet? (s : List Char) : Option (UInt8 × List Char) := do
  let (ds, rest) := s.span Char.isDigit
  if ds.length > 3 || (ds.head? = some '0' && ds.length > 1) then none
  return (← Text.byte? ds, rest)

/-- Reads an address at the front. -/
def read? (s : List Char) : Option (Ipv4 × List Char) := do
  let (a, s) ← readOctet? s
  let (b, s) ← readOctet? (← Text.after? ['.'] s)
  let (c, s) ← readOctet? (← Text.after? ['.'] s)
  let (d, s) ← readOctet? (← Text.after? ['.'] s)
  return (⟨a, b, c, d⟩, s)

/-- The address with the given text form. -/
def parse? (s : List Char) : Option Ipv4 := do
  let (x, rest) ← read? s
  if rest.isEmpty then some x else none

end Ipv4

namespace Ipv6

/-- Reads a group: one to four hexadecimal digits. -/
def readGroup? (s : List Char) : Option (UInt16 × List Char) := do
  let (ds, rest) := s.span (Text.isDigitOf 16)
  if ds.length > 4 then none
  return (UInt16.ofNat (← Text.ofDigits? 16 ds), rest)

/-- The groups that an IPv4 address makes up. -/
def groupsOfIpv4 (x : Ipv4) : List UInt16 :=
  [groupOfOctets x.a x.b, groupOfOctets x.c x.d]

/-- Groups read from the front of a text: the groups, whether an IPv4 address ends them, and what
follows. -/
structure GroupsRead where
  groups : List UInt16
  endsInIpv4 : Bool
  rest : List Char

/-- Reads at most `room` groups set apart by colons; where two or more have room, an IPv4 address
may take the place of the last two. `first` tells that no group stands before. -/
def readGroups (first : Bool) : Nat → List Char → GroupsRead
  | 0, s => ⟨[], false, s⟩
  | room + 1, s =>
    match (if first then some s else Text.after? [':'] s) with
    | none => ⟨[], false, s⟩
    | some s' =>
      match (if room ≥ 1 then Ipv4.read? s' else none) with
      | some (x, rest) => ⟨groupsOfIpv4 x, true, rest⟩
      | none =>
        match readGroup? s' with
        | none => ⟨[], false, s⟩
        | some (g, rest) =>
          let more := readGroups false room rest
          { more with groups := g :: more.groups }

/-- Reads an address at the front. -/
def read? (s : List Char) : Option (Ipv6 × List Char) := do
  let front := readGroups true 8 s
  if front.groups.length = 8 then
    return (← ofGroups? front.groups, front.rest)
  if front.endsInIpv4 then none
  let rest ← Text.after? [':', ':'] front.rest
  let back := readGroups true (7 - front.groups.length) rest
  let zeros := List.replicate (8 - front.groups.length - back.groups.length) 0
  return (← ofGroups? (front.groups ++ zeros ++ back.groups), back.rest)

/-- The address with the given text form. -/
def parse? (s : List Char) : Option Ipv6 := do
  let (x, rest) ← read? s
  if rest.isEmpty then some x else none

end Ipv6

/-- The address of either family with the given text form. -/
def IpAddress.parse? (s : List Char) : Option IpAddress :=
  match Ipv4.parse? s with
  | some x => some (.v4 x)
  | none => (Ipv6.parse? s).map .v6

end FlowAudit
