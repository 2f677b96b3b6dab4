import FlowAudit.Proofs.Net.Notation
import FlowAudit.Proofs.Sockets.Choice

/-!
# Mapped addresses in socket tables

A socket for both families is listed with mapped addresses, and a connection may be asked for in
either form. When all addresses of a table and of an endpoint are replaced by their canonical forms,
the same socket is found with its addresses replaced (`SocketTable.find?_unmapped`), with one
exception: a UDP socket whose remote end is the mapped form of `0.0.0.0` with port zero is taken for
connected, and with `0.0.0.0` itself for unconnected (`SocketTable.find?_ne_of_mappedRemote`).
-/

namespace FlowAudit

/-! ### Canonical addresses -/

namespace IpAddress

/-- The address that stands for no address, in the form of a mapped address. -/
def mappedUnspecified : IpAddress :=
  .v6 Ipv4.unspecified.toMapped

/-- Only for one address it makes a difference whether it is canonical. -/
theorem isUnspecified_canonical {x : IpAddress} (hx : x ≠ mappedUnspecified) :
    x.canonical.isUnspecified = x.isUnspecified := by
  cases x with
  | v4 x => rfl
  | v6 x =>
    cases hmapped : x.mapped? with
    | none => rw [canonical, hmapped]
    | some y =>
      obtain rfl := Ipv6.eq_toMapped hmapped
      have hy : y ≠ .unspecified := fun h => hx (congrArg (IpAddress.v6 ∘ Ipv4.toMapped) h)
      have hne : y.toMapped ≠ .unspecified := by
        intro h
        have hgroup : (0xFFFF : UInt16) = 0 := congrArg Ipv6.g5 h
        exact absurd hgroup (by decide)
      rw [canonical, hmapped]
      simp [isUnspecified, hy, hne]

end IpAddress

namespace Endpoint

/-- The endpoint with its address in canonical form. -/
def unmapped (e : Endpoint) : Endpoint :=
  { e with address := e.address.canonical }

@[simp] theorem port_unmapped (e : Endpoint) : e.unmapped.port = e.port := rfl

@[simp] theorem address_unmapped (e : Endpoint) : e.unmapped.address = e.address.canonical := rfl

@[simp] theorem canonical_unmapped (e : Endpoint) : e.unmapped.canonical = e.canonical := by
  rw [canonical, address_unmapped, IpAddress.canonical_canonical]
  rfl

@[simp] theorem samePlace_unmapped_left (e f : Endpoint) :
    e.unmapped.samePlace f = e.samePlace f := by
  rw [Bool.eq_iff_iff, samePlace_iff, samePlace_iff, canonical_unmapped]

@[simp] theorem samePlace_unmapped_right (e f : Endpoint) :
    e.samePlace f.unmapped = e.samePlace f := by
  rw [Bool.eq_iff_iff, samePlace_iff, samePlace_iff, canonical_unmapped]

end Endpoint

namespace Socket

/-- The socket with its addresses in canonical form. -/
def unmapped (s : Socket) : Socket :=
  { s with here := s.here.unmapped, remote := s.remote.unmapped }

/-- A socket whose remote end is port zero of the mapped form of no address. -/
def HasMappedRemote (s : Socket) : Prop :=
  s.remote.port = 0 ∧ s.remote.address = .mappedUnspecified

instance (s : Socket) : Decidable s.HasMappedRemote :=
  inferInstanceAs (Decidable (_ ∧ _))

theorem isUnconnected_unmapped {s : Socket} (hs : ¬ s.HasMappedRemote) :
    s.unmapped.isUnconnected = s.isUnconnected := by
  have hremote : s.unmapped.remote = s.remote.unmapped := rfl
  rw [isUnconnected, isUnconnected, hremote, Endpoint.port_unmapped, Endpoint.address_unmapped]
  by_cases hport : s.remote.port = 0
  · rw [IpAddress.isUnspecified_canonical fun haddress => hs ⟨hport, haddress⟩]
  · simp [hport]

theorem isBound_unmapped {s : Socket} {protocol : Protocol}
    (hs : protocol = .udp → ¬ s.HasMappedRemote) :
    s.unmapped.isBound protocol = s.isBound protocol := by
  cases protocol with
  | tcp => rfl
  | udp => exact isUnconnected_unmapped (hs rfl)

end Socket

namespace SocketTable

/-- The table with all addresses in canonical form. -/
def unmapped (t : SocketTable) : SocketTable :=
  { t with sockets := t.sockets.map Socket.unmapped }

/-! ### The answer -/

variable {t : SocketTable} {endpoint : Endpoint} {peer : Option Endpoint} {s : Socket}

theorem isLocal_unmapped (t : SocketTable) (address : IpAddress) :
    t.unmapped.isLocal address.canonical = t.isLocal address := by
  simp [isLocal, unmapped, Socket.unmapped, IpAddress.canonical_canonical, Function.comp_def]

/-- A socket fits as well with canonical addresses if it is as bound with them. -/
theorem fit?_unmapped (hs : t.protocol = .udp → ¬ s.HasMappedRemote) :
    t.unmapped.fit? endpoint.unmapped (peer.map Endpoint.unmapped) s.unmapped =
      t.fit? endpoint peer s := by
  have hbound : s.unmapped.isBound t.unmapped.protocol = s.isBound t.protocol :=
    Socket.isBound_unmapped hs
  have hhere : s.unmapped.here = s.here.unmapped := rfl
  have hremote : s.unmapped.remote = s.remote.unmapped := rfl
  unfold fit?
  cases peer <;>
    simp [hbound, hhere, hremote, IpAddress.canonical_canonical, isLocal_unmapped]

/-- The forms of the addresses that are asked for make no difference. -/
theorem find?_endpoint_unmapped :
    t.find? endpoint.unmapped (peer.map Endpoint.unmapped) = t.find? endpoint peer := by
  have hlocal (address : IpAddress) : t.isLocal address.canonical = t.isLocal address := by
    simp only [isLocal, IpAddress.canonical_canonical]
  have hfit (s : Socket) : t.fit? endpoint.unmapped (peer.map Endpoint.unmapped) s =
      t.fit? endpoint peer s := by
    unfold fit?
    cases peer <;> simp [hlocal, IpAddress.canonical_canonical]
  have hsame := bestOf_map (g := id) (l := t.sockets) (fun s _ => hfit s) (fun _ => rfl) none
  rw [find?, find?]
  simpa using congrArg (Option.map Prod.snd) hsame

/-- The forms in which addresses are asked for make no difference for the socket that is found, and
those in which they are listed make none either, unless a UDP socket is listed with the mapped form
of no address for its remote end. -/
theorem find?_unmapped (t : SocketTable) (endpoint : Endpoint) (peer : Option Endpoint) :
    t.find? endpoint.unmapped (peer.map Endpoint.unmapped) = t.find? endpoint peer ∧
      ((t.protocol = .udp → ∀ s ∈ t.sockets, ¬ s.HasMappedRemote) →
        t.unmapped.find? endpoint.unmapped (peer.map Endpoint.unmapped) =
          (t.find? endpoint peer).map Socket.unmapped) := by
  refine ⟨find?_endpoint_unmapped, fun h => ?_⟩
  have hsame : t.unmapped.bestOf endpoint.unmapped (peer.map Endpoint.unmapped)
      (none.map (Prod.map id Socket.unmapped)) (t.sockets.map Socket.unmapped) =
        (t.bestOf endpoint peer none t.sockets).map (Prod.map id Socket.unmapped) :=
    bestOf_map (fun s hs => fit?_unmapped fun hudp => h hudp s hs) (fun _ => rfl) none
  have hsockets : t.unmapped.sockets = t.sockets.map Socket.unmapped := rfl
  rw [Option.map_none] at hsame
  rw [find?, find?, hsockets, hsame, Option.map_map, Option.map_map]
  rfl

/-- The address `10.0.0.8` in either form. -/
def nameServer : Ipv4 := ⟨10, 0, 0, 8⟩

/-- The sockets of a name server: one for both families that takes all queries, and one that is
connected, both with mapped addresses. -/
def dualTable : SocketTable where
  protocol := .udp
  sockets :=
    [{ here := ⟨.v6 nameServer.toMapped, 53, 0⟩, remote := ⟨.v6 .unspecified, 0, 0⟩,
        state := 7, uid := 0, inode := 20 },
      { here := ⟨.v6 nameServer.toMapped, 53, 0⟩,
        remote := ⟨.v6 (Ipv4.toMapped ⟨10, 0, 0, 9⟩), 4000, 0⟩, state := 1, uid := 0, inode := 21 }]

/-- The socket that is connected to a peer is found in either form. -/
theorem find?_unmapped_dualTable :
    (dualTable.protocol = .udp → ∀ s ∈ dualTable.sockets, ¬ s.HasMappedRemote) ∧
      (dualTable.find? ⟨.v4 nameServer, 53, 0⟩ (some ⟨.v4 ⟨10, 0, 0, 9⟩, 4000, 0⟩)).map
        Socket.inode = some 21 ∧
      (dualTable.unmapped.find? ⟨.v4 nameServer, 53, 0⟩
        (some ⟨.v4 ⟨10, 0, 0, 9⟩, 4000, 0⟩)).map Socket.inode = some 21 := by
  have hremote : dualTable.protocol = .udp → ∀ s ∈ dualTable.sockets, ¬ s.HasMappedRemote :=
    fun _ => by decide
  have hfound : (dualTable.find? ⟨.v4 nameServer, 53, 0⟩
      (some ⟨.v4 ⟨10, 0, 0, 9⟩, 4000, 0⟩)).map Socket.inode = some 21 := by decide
  have hsame := (find?_unmapped dualTable ⟨.v4 nameServer, 53, 0⟩
    (some ⟨.v4 ⟨10, 0, 0, 9⟩, 4000, 0⟩)).2 hremote
  refine ⟨hremote, hfound, ?_⟩
  rw [← hfound]
  have hinode := congrArg (Option.map Socket.inode) hsame
  rwa [Option.map_map] at hinode

/-- A name server's socket that is listed with the mapped form of no address for its remote end. -/
def mappedRemoteTable : SocketTable where
  protocol := .udp
  sockets :=
    [{ here := ⟨.v4 nameServer, 53, 0⟩, remote := ⟨.mappedUnspecified, 0, 0⟩, state := 7, uid := 0,
        inode := 20 }]

/-- A query from a peer has no socket, although with its addresses in canonical form the socket of
the name server is found. -/
theorem find?_ne_of_mappedRemote :
    mappedRemoteTable.find? ⟨.v4 nameServer, 53, 0⟩ (some ⟨.v4 ⟨10, 0, 0, 9⟩, 4000, 0⟩) = none ∧
      (mappedRemoteTable.unmapped.find? (Endpoint.unmapped ⟨.v4 nameServer, 53, 0⟩)
        (some (Endpoint.unmapped ⟨.v4 ⟨10, 0, 0, 9⟩, 4000, 0⟩))).map Socket.inode = some 20 := by
  decide

end SocketTable

end FlowAudit
