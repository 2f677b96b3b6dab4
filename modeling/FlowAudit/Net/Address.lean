/-!
# Internet addresses

An IPv6 address of the form `::ffff:a.b.c.d` stands for the IPv4 address `a.b.c.d`; it is called
mapped. `IpAddress.canonical` replaces a mapped address by the IPv4 address and keeps every other
one, so two addresses name the same host exactly when their canonical forms are equal. Doing so
twice changes nothing more (`canonical_canonical`).
-/

namespace FlowAudit

/-- An IPv4 address, by its four octets. -/
structure Ipv4 where
  a : UInt8
  b : UInt8
  c : UInt8
  d : UInt8
  deriving DecidableEq, Hashable, Repr, Inhabited

/-- An IPv6 address, by its eight groups of sixteen bits. -/
structure Ipv6 where
  g0 : UInt16
  g1 : UInt16
  g2 : UInt16
  g3 : UInt16
  g4 : UInt16
  g5 : UInt16
  g6 : UInt16
  g7 : UInt16
  deriving DecidableEq, Hashable, Repr, Inhabited

/-- An address of either family. -/
inductive IpAddress where
  | v4 (address : Ipv4)
  | v6 (address : Ipv6)
  deriving DecidableEq, Hashable, Repr, Inhabited

/-! ### Octets and groups -/

namespace Ipv4

/-- The four octets, in the order they are written. -/
def octets (x : Ipv4) : List UInt8 :=
  [x.a, x.b, x.c, x.d]

/-- The address with the given octets. -/
def ofOctets? : List UInt8 → Option Ipv4
  | [a, b, c, d] => some ⟨a, b, c, d⟩
  | _ => none

/-- The address whose octets are the digits of `n` in base 256; higher digits are dropped. -/
def ofNat (n : Nat) : Ipv4 :=
  ⟨UInt8.ofNat (n / 0x1000000), UInt8.ofNat (n / 0x10000), UInt8.ofNat (n / 0x100), UInt8.ofNat n⟩

/-- The address `0.0.0.0`. -/
def unspecified : Ipv4 := ⟨0, 0, 0, 0⟩

/-- The address `255.255.255.255`. -/
def broadcast : Ipv4 := ⟨255, 255, 255, 255⟩

theorem ofOctets?_octets (x : Ipv4) : ofOctets? x.octets = some x := rfl

end Ipv4

namespace Ipv6

/-- The eight groups, in the order they are written. -/
def groups (x : Ipv6) : List UInt16 :=
  [x.g0, x.g1, x.g2, x.g3, x.g4, x.g5, x.g6, x.g7]

/-- The address with the given groups. -/
def ofGroups? : List UInt16 → Option Ipv6
  | [g0, g1, g2, g3, g4, g5, g6, g7] => some ⟨g0, g1, g2, g3, g4, g5, g6, g7⟩
  | _ => none

/-- The high and the low octet of a group. -/
def octetsOfGroup (g : UInt16) : List UInt8 :=
  [(g >>> 8).toUInt8, g.toUInt8]

/-- The group with the given high and low octet. -/
def groupOfOctets (high low : UInt8) : UInt16 :=
  (high.toUInt16 <<< 8) ||| low.toUInt16

/-- The sixteen octets, in the order they are sent. -/
def octets (x : Ipv6) : List UInt8 :=
  x.groups.flatMap octetsOfGroup

/-- The address `::`. -/
def unspecified : Ipv6 := ⟨0, 0, 0, 0, 0, 0, 0, 0⟩

/-- The address `::1`. -/
def loopback : Ipv6 := ⟨0, 0, 0, 0, 0, 0, 0, 1⟩

/-- The IPv4 address that a mapped address stands for. -/
def mapped? (x : Ipv6) : Option Ipv4 :=
  if x.g0 = 0 ∧ x.g1 = 0 ∧ x.g2 = 0 ∧ x.g3 = 0 ∧ x.g4 = 0 ∧ x.g5 = 0xFFFF then
    Ipv4.ofOctets? (octetsOfGroup x.g6 ++ octetsOfGroup x.g7)
  else
    none

theorem ofGroups?_groups (x : Ipv6) : ofGroups? x.groups = some x := rfl

end Ipv6

/-- The mapped form of an IPv4 address. -/
def Ipv4.toMapped (x : Ipv4) : Ipv6 :=
  ⟨0, 0, 0, 0, 0, 0xFFFF, Ipv6.groupOfOctets x.a x.b, Ipv6.groupOfOctets x.c x.d⟩

/-! ### Canonical forms and kinds of address -/

namespace IpAddress

/-- The IPv4 address behind a mapped address; every other address stays as it is. -/
def canonical : IpAddress → IpAddress
  | .v4 x => .v4 x
  | .v6 x => match x.mapped? with
    | some y => .v4 y
    | none => .v6 x

/-- An address that is already canonical stays as it is. -/
theorem canonical_canonical (x : IpAddress) : x.canonical.canonical = x.canonical := by
  cases x with
  | v4 x => rfl
  | v6 x =>
    cases h : x.mapped? with
    | some y => simp [canonical, h]
    | none => simp [canonical, h]

/-- Whether this is the address that stands for "no address" in its family. A mapped address is
never one. -/
def isUnspecified : IpAddress → Bool
  | .v4 x => x = Ipv4.unspecified
  | .v6 x => x = Ipv6.unspecified

/-- Whether traffic to this address stays on the host: `127.0.0.0/8` and `::1`. -/
def isLoopback : IpAddress → Bool
  | .v4 x => x.a = 127
  | .v6 x => x = Ipv6.loopback

/-- Whether this address names a group of hosts: `224.0.0.0/4` and `ff00::/8`. -/
def isMulticast : IpAddress → Bool
  | .v4 x => 224 ≤ x.a && x.a ≤ 239
  | .v6 x => 0xFF00 ≤ x.g0

/-- Whether this is the IPv4 broadcast address. -/
def isBroadcast : IpAddress → Bool
  | .v4 x => x = Ipv4.broadcast
  | .v6 _ => false

/-- Whether traffic to this address has a single receiver: its canonical form is neither multicast,
nor broadcast, nor unspecified. -/
def isUnicast (x : IpAddress) : Bool :=
  let y := x.canonical
  !(y.isMulticast || y.isBroadcast || y.isUnspecified)

end IpAddress

end FlowAudit
