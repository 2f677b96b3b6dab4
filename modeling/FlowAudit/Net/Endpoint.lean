import FlowAudit.Net.Notation

/-!
# Endpoints: an address and a port

An endpoint that is configured may name, for an IPv6 address, the scope (network interface) it is
meant in. A scope is part of the text form `[fe80::1%3]:514` and of equality, but two endpoints are
at the same place (`Endpoint.samePlace`) whatever their scopes and whether or not their addresses
are mapped.
-/

namespace FlowAudit

/-- A port number. -/
abbrev Port := UInt16

/-- An address and a port; `scope` is zero when no scope is named, as for every IPv4 address. -/
structure Endpoint where
  address : IpAddress
  port : Port
  scope : UInt32 := 0
  deriving DecidableEq, Hashable, Repr, Inhabited

namespace Endpoint

/-- The endpoint without its scope. -/
def unscoped (e : Endpoint) : Endpoint :=
  { e with scope := 0 }

/-- The endpoint without its scope and with its address in canonical form. -/
def canonical (e : Endpoint) : Endpoint :=
  ⟨e.address.canonical, e.port, 0⟩

/-- Whether two endpoints have equal ports and equal canonical addresses. -/
def samePlace (e f : Endpoint) : Bool :=
  e.port = f.port && e.address.canonical = f.address.canonical

theorem samePlace_iff {e f : Endpoint} : e.samePlace f = true ↔ e.canonical = f.canonical := by
  simp [samePlace, canonical, and_comm]

/-! ### Text form -/

/-- The text form: an IPv6 address stands in brackets, with its scope if it has one. -/
def render (e : Endpoint) : String :=
  match e.address with
  | .v4 x => x.render ++ ":" ++ toString e.port.toNat
  | .v6 x =>
    let scope := if e.scope = 0 then "" else "%" ++ toString e.scope.toNat
    "[" ++ x.render ++ scope ++ "]:" ++ toString e.port.toNat

/-- Reads a decimal number of at most `bits` bits at the front, without sign. -/
def readNumber? (bits : Nat) (s : List Char) : Option (Nat × List Char) := do
  let (ds, rest) := s.span Char.isDigit
  let n ← Text.ofDigits? 10 ds
  if n ≤ Text.maxOfBits bits then some (n, rest) else none

/-- Reads the scope of an address, if there is one. -/
def readScope (s : List Char) : UInt32 × List Char :=
  match (do readNumber? 32 (← Text.after? ['%'] s) : Option (Nat × List Char)) with
  | some (n, rest) => (UInt32.ofNat n, rest)
  | none => (0, s)

/-- Reads an address as it stands before a port. -/
def readAddress? (s : List Char) : Option ((IpAddress × UInt32) × List Char) :=
  match s with
  | '[' :: s => do
    let (x, s) ← Ipv6.read? s
    let (scope, s) := readScope s
    return ((.v6 x, scope), ← Text.after? [']'] s)
  | _ => do
    let (x, s) ← Ipv4.read? s
    return ((.v4 x, 0), s)

/-- The endpoint with the given text form. -/
def parse? (s : List Char) : Option Endpoint := do
  let ((address, scope), s) ← readAddress? s
  let (port, s) ← readNumber? 16 (← Text.after? [':'] s)
  if s.isEmpty then some ⟨address, UInt16.ofNat port, scope⟩ else none

end Endpoint

end FlowAudit
