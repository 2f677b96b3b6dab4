import FlowAudit.Proofs.Sockets.Choice

/-!
# Addresses of this host

A socket that takes traffic to all addresses of the host stands for an endpoint only if the address
of the endpoint belongs to the host: it is a loopback address, or some socket is bound to it and not
just to all addresses (`SocketTable.BelongsToHost`).

What is asked is whether any socket is listed with the address (`isLocal_iff`). That is the same
question for every address but the unspecified ones, with which the sockets are listed that are
bound to all addresses of a family (`isLocal_iff_belongsToHost`). So a socket for all addresses of
one family may stand for the unspecified address of the other one, if that is listed as well, and
otherwise only for addresses of the host (`belongsToHost_of_find?`).
-/

namespace FlowAudit

/-! ### Unspecified addresses -/

namespace IpAddress

/-- The unspecified address of the family that an address is not of. -/
def otherUnspecified : IpAddress → IpAddress
  | .v4 _ => .v6 .unspecified
  | .v6 _ => .v4 .unspecified

theorem isUnspecified_iff {x : IpAddress} :
    x.isUnspecified = true ↔ x = .v4 .unspecified ∨ x = .v6 .unspecified := by
  cases x with
  | v4 x => simp [isUnspecified]
  | v6 x => simp [isUnspecified]

/-- There is one unspecified address in each family. -/
theorem eq_otherUnspecified {x y : IpAddress} (hx : x.isUnspecified = true)
    (hy : y.isUnspecified = true) (hne : x ≠ y) : x = y.otherUnspecified := by
  rcases isUnspecified_iff.mp hx with rfl | rfl
  · rcases isUnspecified_iff.mp hy with rfl | rfl
    · exact absurd rfl hne
    · rfl
  · rcases isUnspecified_iff.mp hy with rfl | rfl
    · rfl
    · exact absurd rfl hne

theorem isUnspecified_of_isLoopback {x : IpAddress} (h : x.isLoopback = true) :
    x.isUnspecified = false := by
  rw [Bool.eq_false_iff]
  intro hun
  rcases isUnspecified_iff.mp hun with rfl | rfl
  · exact absurd h (by decide)
  · exact absurd h (by decide)

end IpAddress

/-! ### Addresses of the host -/

namespace SocketTable

/-- A socket of the table is bound to this address in particular. -/
def HasBound (t : SocketTable) (address : IpAddress) : Prop :=
  ∃ s ∈ t.sockets, s.here.address.canonical.isUnspecified = false ∧
    s.here.address.canonical = address.canonical

/-- An address is one of the host: a loopback address, or one that a socket is bound to. -/
def BelongsToHost (t : SocketTable) (address : IpAddress) : Prop :=
  address.canonical.isLoopback = true ∨ t.HasBound address

variable {t : SocketTable} {address : IpAddress} {endpoint peer : Endpoint} {s : Socket}

/-- The unspecified addresses belong to no host. -/
theorem BelongsToHost.isUnspecified_eq (h : t.BelongsToHost address) :
    address.canonical.isUnspecified = false := by
  rcases h with hloopback | ⟨s, -, hspecified, heq⟩
  · exact IpAddress.isUnspecified_of_isLoopback hloopback
  · rwa [heq] at hspecified

/-- An address passes for one of the host if it is, or if it is an unspecified address that a socket
is listed with. -/
theorem isLocal_iff_belongsToHost : t.isLocal address = true ↔ t.BelongsToHost address ∨
    address.canonical.isUnspecified = true ∧
      ∃ s ∈ t.sockets, s.here.address.canonical = address.canonical := by
  rw [isLocal_iff]
  constructor
  · rintro (hloopback | ⟨s, hs, heq⟩)
    · exact .inl (.inl hloopback)
    · cases hun : address.canonical.isUnspecified with
      | true => exact .inr ⟨rfl, s, hs, heq⟩
      | false => exact .inl (.inr ⟨s, hs, by rw [heq, hun], heq⟩)
  · rintro ((hloopback | ⟨s, hs, -, heq⟩) | ⟨-, s, hs, heq⟩)
    · exact .inl hloopback
    · exact .inr ⟨s, hs, heq⟩
    · exact .inr ⟨s, hs, heq⟩

/-! ### Sockets for all addresses -/

/-- A socket that is found at another address than its own is one for all addresses, and the address
that was asked for passes for one of the host. -/
theorem isLocal_of_find? (h : t.find? endpoint (some peer) = some s)
    (hne : s.here.address.canonical ≠ endpoint.address.canonical) :
    s.here.address.canonical.isUnspecified = true ∧ t.isLocal endpoint.address = true := by
  obtain ⟨-, hmatches⟩ := find?_spec h
  cases hmatches with
  | connected hhere | bound hhere =>
    exact absurd (Endpoint.canonical_eq_iff.mp hhere).2 hne
  | wildcard _ hun _ hlocal =>
    rcases hlocal with hnone | hlocal
    · cases hnone
    · exact ⟨hun, hlocal⟩

/-- Where some socket fits, one is found. -/
theorem isSome_find? {fit : Fit} (hs : s ∈ t.sockets)
    (hfit : t.Admits endpoint (some peer) s fit) :
    (t.find? endpoint (some peer)).isSome = true := by
  obtain ⟨fit', s', hbest⟩ := exists_isBestOf hs hfit
  rw [find?, hbest.bestOf_eq]
  rfl

/-- If a socket is found for an endpoint with another address than its own, it is one for all
addresses, and the address of the endpoint belongs to the host, unless that is the unspecified
address of the other family and some socket is listed with it. Where an address belongs to the host,
a socket for all addresses at the port is reason enough that one is found. -/
theorem belongsToHost_of_find? (t : SocketTable) (endpoint peer : Endpoint) :
    (∀ s, t.find? endpoint (some peer) = some s →
      s.here.address.canonical ≠ endpoint.address.canonical →
      s.here.address.canonical.isUnspecified = true ∧
        (t.BelongsToHost endpoint.address ∨
          endpoint.address.canonical = s.here.address.canonical.otherUnspecified ∧
            ∃ x ∈ t.sockets, x.here.address.canonical = endpoint.address.canonical)) ∧
    (t.BelongsToHost endpoint.address → ∀ s ∈ t.sockets,
      s.here.port = endpoint.port → s.here.address.canonical.isUnspecified = true →
      s.isBound t.protocol = true → (t.find? endpoint (some peer)).isSome = true) := by
  constructor
  · intro s hfound hne
    obtain ⟨hun, hlocal⟩ := isLocal_of_find? hfound hne
    refine ⟨hun, ?_⟩
    rcases isLocal_iff_belongsToHost.mp hlocal with hhost | ⟨hasked, hlisted⟩
    · exact .inl hhost
    · exact .inr ⟨IpAddress.eq_otherUnspecified hasked hun hne.symm, hlisted⟩
  · intro hhost s hs hport hun hbound
    have hne : s.here.address.canonical ≠ endpoint.address.canonical := by
      intro heq
      rw [heq, hhost.isUnspecified_eq] at hun
      cases hun
    have hlocal := isLocal_iff_belongsToHost.mpr (.inl hhost)
    exact isSome_find? hs (.wildcard hport hne hun hbound (.inr hlocal))

/-! ### A host that asks for its address -/

/-- A host on which one socket for both families waits for the answers of DHCP servers, and another
one takes DNS queries. -/
def dhcpTable : SocketTable where
  protocol := .udp
  sockets :=
    [{ here := ⟨.v6 .unspecified, 68, 0⟩, remote := ⟨.v6 .unspecified, 0, 0⟩, state := 7, uid := 0,
        inode := 30 },
      { here := ⟨.v4 .unspecified, 53, 0⟩, remote := ⟨.v4 .unspecified, 0, 0⟩, state := 7, uid := 0,
        inode := 31 }]

/-- Where a host that has no address yet sends its requests from. -/
def dhcpClient : Endpoint := ⟨.v4 .unspecified, 68, 0⟩

/-- Traffic from the host to itself belongs to the socket that waits at the port. -/
theorem inode_of_dhcpTable : ∃ s,
    dhcpTable.find? ⟨.v4 ⟨127, 0, 0, 1⟩, 68, 0⟩ (some ⟨.v4 ⟨127, 0, 0, 1⟩, 67, 0⟩) = some s ∧
      s.inode = 30 ∧ s.here.address.canonical.isUnspecified = true ∧
      dhcpTable.BelongsToHost (.v4 ⟨127, 0, 0, 1⟩) := by
  refine ⟨_, rfl, rfl, ?_⟩
  obtain ⟨hun, hhost | ⟨hother, -⟩⟩ := (belongsToHost_of_find? dhcpTable
    ⟨.v4 ⟨127, 0, 0, 1⟩, 68, 0⟩ ⟨.v4 ⟨127, 0, 0, 1⟩, 67, 0⟩).1 _ rfl (by decide)
  · exact ⟨hun, hhost⟩
  · exact absurd hother (by decide)

/-- A request that is sent from `0.0.0.0` is given to that socket as well, because another socket is
listed with `0.0.0.0`, although no socket is bound to an address of its own. -/
theorem not_belongsToHost_of_dhcpTable : ∃ s,
    dhcpTable.find? dhcpClient (some ⟨.v4 .broadcast, 67, 0⟩) = some s ∧
      s.here.address.isUnspecified = true ∧
      s.here.address.canonical ≠ dhcpClient.address.canonical ∧
      ¬ dhcpTable.BelongsToHost dhcpClient.address := by
  refine ⟨_, rfl, rfl, by decide, ?_⟩
  intro hhost
  have hspecified : dhcpClient.address.canonical.isUnspecified = false := hhost.isUnspecified_eq
  cases hspecified

end SocketTable

end FlowAudit
