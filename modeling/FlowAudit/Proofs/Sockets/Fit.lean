import Mathlib.Logic.Basic
import FlowAudit.Sockets.Lookup

/-!
# Which sockets fit an endpoint

`SocketTable.Matches` says in terms of the endpoints alone when a socket can be the one behind an
endpoint, and `SocketTable.isSome_fit?_iff` that such sockets are just those with a fit. A socket
that is found stands in the table and matches (`SocketTable.find?_spec`).
-/

namespace FlowAudit

theorem Endpoint.canonical_eq_iff {e f : Endpoint} :
    e.canonical = f.canonical ↔ e.port = f.port ∧ e.address.canonical = f.address.canonical := by
  rw [← samePlace_iff, samePlace, Bool.and_eq_true, decide_eq_true_eq,
    decide_eq_true_eq]

namespace SocketTable

/-- A socket can be the one behind `endpoint`, in a connection with `peer` if a peer is given. -/
inductive Matches (t : SocketTable) (endpoint : Endpoint) (peer : Option Endpoint) (s : Socket) :
    Prop where
  /-- Both ends fit; without a peer any remote end does. -/
  | connected (here : s.here.canonical = endpoint.canonical)
      (remote : ∀ p ∈ peer, s.remote.canonical = p.canonical)
  /-- The socket takes traffic from any peer at this endpoint. -/
  | bound (here : s.here.canonical = endpoint.canonical) (bound : s.isBound t.protocol = true)
  /-- The socket takes traffic from any peer at this port, on every address of the host. -/
  | wildcard (port : s.here.port = endpoint.port)
      (unspecified : s.here.address.canonical.isUnspecified = true)
      (bound : s.isBound t.protocol = true)
      (isLocal : peer = none ∨ t.isLocal endpoint.address = true)

section Fit

variable {t : SocketTable} {endpoint : Endpoint} {peer : Option Endpoint} {s : Socket}

/-- At the endpoint itself a socket fits that is connected to the peer or takes traffic from any. -/
theorem isSome_fit?_of_here (hhere : s.here.canonical = endpoint.canonical) :
    (t.fit? endpoint peer s).isSome = true ↔
      (∀ p ∈ peer, s.remote.canonical = p.canonical) ∨ s.isBound t.protocol = true := by
  obtain ⟨hport, haddress⟩ := Endpoint.canonical_eq_iff.mp hhere
  unfold fit?
  dsimp only
  rw [if_neg (not_not.mpr hport), if_pos haddress]
  cases peer with
  | none => cases s.isBound t.protocol <;> simp
  | some p =>
    have hremote : s.remote.samePlace p = true ↔ s.remote.canonical = p.canonical :=
      Endpoint.samePlace_iff
    cases hplace : s.remote.samePlace p <;> cases s.isBound t.protocol <;>
      simp [← hremote, hplace]

/-- At another address of the same port only a socket fits that is bound to all addresses. -/
theorem isSome_fit?_of_elsewhere (hport : s.here.port = endpoint.port)
    (haddress : s.here.address.canonical ≠ endpoint.address.canonical) :
    (t.fit? endpoint peer s).isSome = true ↔
      s.here.address.canonical.isUnspecified = true ∧ s.isBound t.protocol = true ∧
        (peer = none ∨ t.isLocal endpoint.address = true) := by
  unfold fit?
  dsimp only
  rw [if_neg (not_not.mpr hport), if_neg haddress]
  cases s.here.address.canonical.isUnspecified <;> cases s.isBound t.protocol <;> cases peer <;>
    cases t.isLocal endpoint.address <;> simp

/-- A socket has a fit just when it matches. -/
theorem isSome_fit?_iff : (t.fit? endpoint peer s).isSome = true ↔ t.Matches endpoint peer s := by
  by_cases hport : s.here.port = endpoint.port
  · by_cases haddress : s.here.address.canonical = endpoint.address.canonical
    · have hhere : s.here.canonical = endpoint.canonical :=
        Endpoint.canonical_eq_iff.mpr ⟨hport, haddress⟩
      rw [isSome_fit?_of_here hhere]
      constructor
      · rintro (hremote | hbound)
        · exact .connected hhere hremote
        · exact .bound hhere hbound
      · rintro (⟨-, hremote⟩ | ⟨-, hbound⟩ | ⟨-, -, hbound, -⟩)
        · exact .inl hremote
        · exact .inr hbound
        · exact .inr hbound
    · have hhere : s.here.canonical ≠ endpoint.canonical := fun h =>
        haddress (Endpoint.canonical_eq_iff.mp h).2
      rw [isSome_fit?_of_elsewhere hport haddress]
      constructor
      · rintro ⟨hunspecified, hbound, hlocal⟩
        exact .wildcard hport hunspecified hbound hlocal
      · rintro (⟨hhere', -⟩ | ⟨hhere', -⟩ | ⟨-, hunspecified, hbound, hlocal⟩)
        · exact absurd hhere' hhere
        · exact absurd hhere' hhere
        · exact ⟨hunspecified, hbound, hlocal⟩
  · have hnone : t.fit? endpoint peer s = none := if_pos hport
    rw [hnone]
    refine ⟨nofun, ?_⟩
    rintro (⟨hhere, -⟩ | ⟨hhere, -⟩ | ⟨hport', -⟩)
    · exact absurd (Endpoint.canonical_eq_iff.mp hhere).1 hport
    · exact absurd (Endpoint.canonical_eq_iff.mp hhere).1 hport
    · exact absurd hport' hport

end Fit

/-! ### The socket that is found -/

section Find

variable {t : SocketTable} {endpoint : Endpoint} {peer : Option Endpoint}

theorem better_eq (best : Option (Nat × Socket)) (fit : Fit) (s : Socket) :
    better best fit s = best ∨ better best fit s = some (rank fit s, s) := by
  unfold better
  split
  · split
    · exact .inr rfl
    · exact .inl rfl
  · exact .inr rfl

/-- The best socket of a list is the best one so far or one of the list that fits. -/
theorem mem_of_bestOf {best : Option (Nat × Socket)} {l : List Socket} {r : Nat} {s : Socket}
    (h : t.bestOf endpoint peer best l = some (r, s)) :
    best = some (r, s) ∨ s ∈ l ∧ (t.fit? endpoint peer s).isSome = true := by
  induction l generalizing best with
  | nil => exact .inl h
  | cons x rest ih =>
    rw [bestOf] at h
    rcases ih h with hbest | ⟨hmem, hfit⟩
    · split at hbest
      · rename_i fit hx
        rcases better_eq best fit x with hkept | hnew
        · exact .inl (hkept ▸ hbest)
        · obtain rfl : x = s := congrArg Prod.snd (Option.some.inj (hnew.symm.trans hbest))
          exact .inr ⟨List.mem_cons_self, by rw [hx, Option.isSome_some]⟩
      · exact .inl hbest
    · exact .inr ⟨List.mem_cons_of_mem x hmem, hfit⟩

/-- A socket that is found stands in the table and matches. -/
theorem find?_spec {s : Socket} (h : t.find? endpoint peer = some s) :
    s ∈ t.sockets ∧ t.Matches endpoint peer s := by
  obtain ⟨⟨r, s⟩, hbest, rfl⟩ := Option.map_eq_some_iff.mp h
  rcases mem_of_bestOf hbest with hnone | ⟨hmem, hfit⟩
  · cases hnone
  · exact ⟨hmem, isSome_fit?_iff.mp hfit⟩

end Find

end SocketTable

end FlowAudit
