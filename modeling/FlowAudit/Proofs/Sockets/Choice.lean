import Mathlib.Data.List.Induction
import FlowAudit.Proofs.Sockets.Fit

/-!
# Which of the sockets that fit is found

`SocketTable.Admits` says how a socket fits an endpoint, and `SocketTable.Outranks` which of two
sockets that fit is the better answer: the one that fits better or, if both fit alike, the only one
with a known inode. The socket that is found is the last of those that no other one outranks, and
there is none only if no socket fits (`SocketTable.choice_of_find?`).
-/

namespace FlowAudit

namespace SocketTable

/-- How a socket fits `endpoint`, in a connection with `peer` if a peer is given. -/
inductive Admits (t : SocketTable) (endpoint : Endpoint) (peer : Option Endpoint) (s : Socket) :
    Fit → Prop where
  /-- The socket is connected to the peer; without a peer, to any. -/
  | connected (port : s.here.port = endpoint.port)
      (address : s.here.address.canonical = endpoint.address.canonical)
      (remote : (∃ p, peer = some p ∧ s.remote.canonical = p.canonical) ∨
        peer = none ∧ s.isBound t.protocol = false) :
      Admits t endpoint peer s .connected
  /-- The socket takes traffic from any peer at this endpoint, and is not connected to the peer. -/
  | bound (port : s.here.port = endpoint.port)
      (address : s.here.address.canonical = endpoint.address.canonical)
      (isBound : s.isBound t.protocol = true)
      (remote : ∀ p ∈ peer, s.remote.canonical ≠ p.canonical) :
      Admits t endpoint peer s .bound
  /-- The socket takes traffic from any peer at this port, on every address of the host. -/
  | wildcard (port : s.here.port = endpoint.port)
      (address : s.here.address.canonical ≠ endpoint.address.canonical)
      (unspecified : s.here.address.canonical.isUnspecified = true)
      (isBound : s.isBound t.protocol = true)
      (isLocal : peer = none ∨ t.isLocal endpoint.address = true) :
      Admits t endpoint peer s .wildcard

/-- Whether the first of two sockets is the better answer, each with how it fits. -/
def Outranks (a b : Fit × Socket) : Prop :=
  b.1.rank < a.1.rank ∨ b.1 = a.1 ∧ b.2.inode = 0 ∧ a.2.inode ≠ 0

instance (a b : Fit × Socket) : Decidable (Outranks a b) :=
  inferInstanceAs (Decidable (_ ∨ _))

theorem outranks_iff {a b : Fit × Socket} : Outranks a b ↔ rank b.1 b.2 < rank a.1 a.2 := by
  have hfit : b.1 = a.1 ↔ b.1.rank = a.1.rank := by
    cases a.1 <;> cases b.1 <;> decide
  rw [Outranks, hfit, rank, rank]
  by_cases ha : a.2.inode = 0 <;> by_cases hb : b.2.inode = 0 <;> simp [ha, hb] <;> omega

section Admits

variable {t : SocketTable} {endpoint : Endpoint} {peer : Option Endpoint} {s : Socket} {fit : Fit}

/-- The fit that is computed is the way in which the socket fits. -/
theorem fit?_eq_some_iff : t.fit? endpoint peer s = some fit ↔ t.Admits endpoint peer s fit := by
  by_cases hport : s.here.port = endpoint.port
  · by_cases haddress : s.here.address.canonical = endpoint.address.canonical
    · -- at the endpoint itself: connected before bound
      have hconnected : t.Admits endpoint peer s .connected ↔
          (∃ p, peer = some p ∧ s.remote.canonical = p.canonical) ∨
            peer = none ∧ s.isBound t.protocol = false :=
        ⟨fun | .connected _ _ hremote => hremote, .connected hport haddress⟩
      have hbound : t.Admits endpoint peer s .bound ↔
          s.isBound t.protocol = true ∧ ∀ p ∈ peer, s.remote.canonical ≠ p.canonical :=
        ⟨fun | .bound _ _ hbound hremote => ⟨hbound, hremote⟩,
          fun h => .bound hport haddress h.1 h.2⟩
      have hwildcard : ¬ t.Admits endpoint peer s .wildcard :=
        fun | .wildcard _ hne _ _ _ => hne haddress
      unfold fit?
      dsimp only
      rw [if_neg (not_not.mpr hport), if_pos haddress]
      cases peer with
      | none =>
        cases hisBound : s.isBound t.protocol <;> cases fit <;>
          simp [hconnected, hbound, hwildcard, hisBound]
      | some p =>
        have hremote : s.remote.samePlace p = true ↔ s.remote.canonical = p.canonical :=
          Endpoint.samePlace_iff
        cases hplace : s.remote.samePlace p <;> cases hisBound : s.isBound t.protocol <;>
          cases fit <;> simp [hconnected, hbound, hwildcard, hisBound, ← hremote, hplace]
    · -- at another address: bound to all addresses or nothing
      have hconnected : ¬ t.Admits endpoint peer s .connected :=
        fun | .connected _ heq _ => haddress heq
      have hbound : ¬ t.Admits endpoint peer s .bound := fun | .bound _ heq _ _ => haddress heq
      have hwildcard : t.Admits endpoint peer s .wildcard ↔
          s.here.address.canonical.isUnspecified = true ∧ s.isBound t.protocol = true ∧
            (peer = none ∨ t.isLocal endpoint.address = true) :=
        ⟨fun | .wildcard _ _ hunspecified hbound hlocal => ⟨hunspecified, hbound, hlocal⟩,
          fun h => .wildcard hport haddress h.1 h.2.1 h.2.2⟩
      unfold fit?
      dsimp only
      rw [if_neg (not_not.mpr hport), if_neg haddress]
      cases hunspecified : s.here.address.canonical.isUnspecified <;>
        cases hisBound : s.isBound t.protocol <;> cases peer <;>
        cases hlocal : t.isLocal endpoint.address <;> cases fit <;>
        simp [hconnected, hbound, hwildcard, hunspecified, hisBound, hlocal]
  · have hnone : t.fit? endpoint peer s = none := if_pos hport
    rw [hnone]
    refine ⟨nofun, ?_⟩
    rintro (⟨hport', -, -⟩ | ⟨hport', -, -, -⟩ | ⟨hport', -, -, -, -⟩) <;>
      exact absurd hport' hport

theorem fit?_eq_none_iff :
    t.fit? endpoint peer s = none ↔ ∀ fit, ¬ t.Admits endpoint peer s fit := by
  rw [Option.eq_none_iff_forall_ne_some]
  exact forall_congr' fun fit => not_congr fit?_eq_some_iff

end Admits

/-- `s`, which fits as `fit`, is the last of the sockets `l` that no other one of them outranks. -/
def IsBestOf (t : SocketTable) (endpoint : Endpoint) (peer : Option Endpoint) (l : List Socket)
    (fit : Fit) (s : Socket) : Prop :=
  t.Admits endpoint peer s fit ∧ ∃ front back, l = front ++ s :: back ∧
    (∀ x ∈ front, ∀ f, t.Admits endpoint peer x f → ¬ Outranks (f, x) (fit, s)) ∧
    ∀ x ∈ back, ∀ f, t.Admits endpoint peer x f → Outranks (fit, s) (f, x)

/-! ### Going through the table -/

section BestOf

variable {t : SocketTable} {endpoint : Endpoint} {peer : Option Endpoint} {l : List Socket}
  {s : Socket} {fit : Fit}

theorem bestOf_append (best : Option (Nat × Socket)) (front back : List Socket) :
    t.bestOf endpoint peer best (front ++ back) =
      t.bestOf endpoint peer (t.bestOf endpoint peer best front) back := by
  induction front generalizing best with
  | nil => rfl
  | cons s front ih => exact ih _

/-- A socket that does not fit makes no difference. -/
theorem bestOf_of_not_admits (hl : ∀ s ∈ l, ∀ f, ¬ t.Admits endpoint peer s f)
    (best : Option (Nat × Socket)) : t.bestOf endpoint peer best l = best := by
  induction l with
  | nil => rfl
  | cons s l ih =>
    rw [List.forall_mem_cons] at hl
    rw [bestOf, fit?_eq_none_iff.mpr hl.1]
    exact ih hl.2

/-- A socket that is outranked by the best one so far does not replace it. -/
theorem bestOf_of_outranks
    (hl : ∀ x ∈ l, ∀ f, t.Admits endpoint peer x f → Outranks (fit, s) (f, x)) :
    t.bestOf endpoint peer (some (rank fit s, s)) l = some (rank fit s, s) := by
  induction l with
  | nil => rfl
  | cons x l ih =>
    rw [List.forall_mem_cons] at hl
    rw [bestOf]
    cases hx : t.fit? endpoint peer x with
    | none => exact ih hl.2
    | some f =>
      have hlt : rank f x < rank fit s := outranks_iff.mp (hl.1 f (fit?_eq_some_iff.mp hx))
      simp only [better, if_neg (Nat.not_le.mpr hlt)]
      exact ih hl.2

/-- The best of sockets none of which outranks a further one is replaced by it. -/
theorem le_of_bestOf {best : Option (Nat × Socket)} (hbest : ∀ b ∈ best, b.1 ≤ rank fit s)
    (hl : ∀ x ∈ l, ∀ f, t.Admits endpoint peer x f → ¬ Outranks (f, x) (fit, s)) :
    ∀ b ∈ t.bestOf endpoint peer best l, b.1 ≤ rank fit s := by
  induction l generalizing best with
  | nil => exact hbest
  | cons x l ih =>
    rw [List.forall_mem_cons] at hl
    rw [bestOf]
    refine ih ?_ hl.2
    cases hx : t.fit? endpoint peer x with
    | none => exact hbest
    | some f =>
      have hle : rank f x ≤ rank fit s := by
        rw [← Nat.not_lt]
        exact fun hlt => hl.1 f (fit?_eq_some_iff.mp hx) (outranks_iff.mpr hlt)
      rcases better_eq best f x with heq | heq
      · simpa only [heq] using hbest
      · simpa only [heq, Option.mem_some_iff, forall_eq'] using hle

theorem IsBestOf.bestOf_eq (h : t.IsBestOf endpoint peer l fit s) :
    t.bestOf endpoint peer none l = some (rank fit s, s) := by
  obtain ⟨hs, front, back, rfl, hfront, hback⟩ := h
  rw [bestOf_append, bestOf, fit?_eq_some_iff.mpr hs]
  cases hbest : t.bestOf endpoint peer none front with
  | none => exact bestOf_of_outranks hback
  | some b =>
    have hnone : ∀ b ∈ (none : Option (Nat × Socket)), b.1 ≤ rank fit s := fun b hb =>
      absurd hb (Option.not_mem_none b)
    have hb : b.1 ≤ rank fit s := le_of_bestOf hnone hfront b hbest
    simp only [better, if_pos hb]
    exact bestOf_of_outranks hback

/-- No socket of a list outranks the best one. -/
theorem IsBestOf.not_outranks (h : t.IsBestOf endpoint peer l fit s) :
    ∀ x ∈ l, ∀ f, t.Admits endpoint peer x f → ¬ Outranks (f, x) (fit, s) := by
  obtain ⟨hs, front, back, rfl, hfront, hback⟩ := h
  intro x hx f hf
  rw [List.mem_append, List.mem_cons] at hx
  rcases hx with hx | rfl | hx
  · exact hfront x hx f hf
  · have hfit := (fit?_eq_some_iff.mpr hf).symm.trans (fit?_eq_some_iff.mpr hs)
    rw [Option.some.inj hfit, outranks_iff]
    exact Nat.lt_irrefl _
  · rw [outranks_iff, Nat.not_lt]
    exact Nat.le_of_lt (outranks_iff.mp (hback x hx f hf))

/-- Of sockets of which one fits, one is the best. -/
theorem exists_isBestOf (hs : s ∈ l) (hfit : t.Admits endpoint peer s fit) :
    ∃ fit' s', t.IsBestOf endpoint peer l fit' s' := by
  -- induction on the list from its end: a further socket is the best one unless it is outranked
  induction l using List.reverseRecOn generalizing s fit with
  | nil => cases hs
  | append_singleton l x ih =>
    by_cases hl : ∃ fit' s', t.IsBestOf endpoint peer l fit' s'
    · obtain ⟨fit', s', hbest⟩ := hl
      by_cases hx : ∃ f, t.Admits endpoint peer x f ∧ ¬ Outranks (fit', s') (f, x)
      · obtain ⟨f, hf, hnot⟩ := hx
        refine ⟨f, x, hf, l, [], rfl, fun y hy g hg hlt => ?_, List.forall_mem_nil _⟩
        have hle := hbest.not_outranks y hy g hg
        rw [outranks_iff] at hnot hlt hle
        exact hle (Nat.lt_of_le_of_lt (Nat.not_lt.mp hnot) hlt)
      · obtain ⟨hs', front, back, rfl, hfront, hback⟩ := hbest
        refine ⟨fit', s', hs', front, back ++ [x], by simp, hfront, ?_⟩
        rw [List.forall_mem_append, List.forall_mem_singleton]
        exact ⟨hback, fun f hf => Decidable.of_not_not fun hnot => hx ⟨f, hf, hnot⟩⟩
    · -- none of those in front fits
      have hnone : ∀ y ∈ l, ∀ f, ¬ t.Admits endpoint peer y f := fun y hy f hf => hl (ih hy hf)
      rcases List.mem_append.mp hs with hs | hs
      · exact absurd hfit (hnone s hs fit)
      · obtain rfl := List.mem_singleton.mp hs
        exact ⟨fit, s, hfit, l, [], rfl, fun y hy f hf => absurd hf (hnone y hy f),
          List.forall_mem_nil _⟩

end BestOf

/-! ### Tables that answer alike -/

section Alike

variable {t t' : SocketTable} {endpoint endpoint' : Endpoint} {peer peer' : Option Endpoint}

/-- The best socket depends on how well each socket fits and on whether its inode is known. -/
theorem bestOf_map {g : Socket → Socket} {l : List Socket}
    (hfit : ∀ s ∈ l, t'.fit? endpoint' peer' (g s) = t.fit? endpoint peer s)
    (hinode : ∀ s, (g s).inode = s.inode) (best : Option (Nat × Socket)) :
    t'.bestOf endpoint' peer' (best.map (Prod.map id g)) (l.map g) =
      (t.bestOf endpoint peer best l).map (Prod.map id g) := by
  induction l generalizing best with
  | nil => rfl
  | cons s l ih =>
    rw [List.forall_mem_cons] at hfit
    rw [List.map_cons, bestOf, bestOf, hfit.1, ← ih hfit.2]
    cases t.fit? endpoint peer s with
    | none => rfl
    | some fit =>
      have hrank : rank fit (g s) = rank fit s := by rw [rank, rank, hinode]
      congr 1
      cases best with
      | none => simp [better, hrank]
      | some b =>
        by_cases hle : b.1 ≤ rank fit s <;> simp [better, hrank, hle]

/-- The table with further sockets behind its own. -/
def extend (t : SocketTable) (further : List Socket) : SocketTable :=
  { t with sockets := t.sockets ++ further }

variable {further : List Socket} (hlocal : ∀ s ∈ further, t.isLocal s.here.address = true)

theorem isLocal_iff {address : IpAddress} :
    t.isLocal address = true ↔ address.canonical.isLoopback = true ∨
      ∃ s ∈ t.sockets, s.here.address.canonical = address.canonical := by
  simp [isLocal]

include hlocal

/-- Further sockets at addresses of this host make no other address one of it. -/
theorem isLocal_extend (address : IpAddress) :
    (t.extend further).isLocal address = t.isLocal address := by
  rw [Bool.eq_iff_iff, isLocal_iff, isLocal_iff]
  constructor
  · rintro (hloopback | ⟨s, hs, heq⟩)
    · exact .inl hloopback
    · rcases List.mem_append.mp hs with hs | hs
      · exact .inr ⟨s, hs, heq⟩
      · have hhere := isLocal_iff.mp (hlocal s hs)
        rwa [heq] at hhere
  · rintro (hloopback | ⟨s, hs, heq⟩)
    · exact .inl hloopback
    · exact .inr ⟨s, List.mem_append_left further hs, heq⟩

theorem fit?_extend (s : Socket) :
    (t.extend further).fit? endpoint peer s = t.fit? endpoint peer s := by
  unfold fit?
  rw [isLocal_extend hlocal]
  rfl

/-- Further sockets that do not fit make no difference for the answer. -/
theorem find?_extend (hfurther : ∀ s ∈ further, ∀ fit, ¬ t.Admits endpoint peer s fit) :
    (t.extend further).find? endpoint peer = t.find? endpoint peer := by
  have hsame : (t.extend further).bestOf endpoint peer none (t.sockets ++ further) =
      t.bestOf endpoint peer none (t.sockets ++ further) := by
    simpa using bestOf_map (g := id) (l := t.sockets ++ further)
      (fun s _ => fit?_extend hlocal s) (fun _ => rfl) none
  have hsockets : (t.extend further).sockets = t.sockets ++ further := rfl
  rw [find?, find?, hsockets, hsame, bestOf_append, bestOf_of_not_admits hfurther]

end Alike

/-! ### The answer -/

/-- The socket that is found is the last of those that fit best, and there is none only if no
socket fits. Further sockets that do not fit, at addresses that the host has anyway, make no
difference. -/
theorem choice_of_find? (t : SocketTable) (endpoint : Endpoint) (peer : Option Endpoint) :
    (t.find? endpoint peer = none ↔ ∀ s ∈ t.sockets, ∀ fit, ¬ t.Admits endpoint peer s fit) ∧
      (∀ s, t.find? endpoint peer = some s ↔
        ∃ fit, t.IsBestOf endpoint peer t.sockets fit s) ∧
      ∀ further, (∀ s ∈ further, t.isLocal s.here.address = true) →
        (∀ s ∈ further, ∀ fit, ¬ t.Admits endpoint peer s fit) →
          (t.extend further).find? endpoint peer = t.find? endpoint peer := by
  have hbest {s : Socket} {fit : Fit} (h : t.IsBestOf endpoint peer t.sockets fit s) :
      t.find? endpoint peer = some s := by
    rw [find?, h.bestOf_eq]
    rfl
  have hnone (h : ∀ s ∈ t.sockets, ∀ fit, ¬ t.Admits endpoint peer s fit) :
      t.find? endpoint peer = none := by
    rw [find?, bestOf_of_not_admits h]
    rfl
  refine ⟨⟨fun h s hs fit hfit => ?_, hnone⟩, fun s => ⟨fun h => ?_, fun ⟨_, h⟩ => hbest h⟩,
    fun further => find?_extend⟩
  · obtain ⟨_, _, hbestOf⟩ := exists_isBestOf hs hfit
    rw [hbest hbestOf] at h
    cases h
  · by_cases hany : ∃ x ∈ t.sockets, ∃ f, t.Admits endpoint peer x f
    · obtain ⟨x, hx, f, hf⟩ := hany
      obtain ⟨fit, s', hbestOf⟩ := exists_isBestOf hx hf
      obtain rfl := Option.some.inj (h.symm.trans (hbest hbestOf))
      exact ⟨fit, hbestOf⟩
    · rw [hnone fun x hx f hf => hany ⟨x, hx, f, hf⟩] at h
      cases h

/-! ### A host with two listeners -/

/-- A host on which one socket takes connections to all addresses, two take those to one address,
of which only the first has an inode, and one holds a connection. -/
def sshTable : SocketTable where
  protocol := .tcp
  sockets :=
    [{ here := ⟨.v6 .unspecified, 22, 0⟩, remote := ⟨.v6 .unspecified, 0, 0⟩,
        state := Socket.listening, uid := 0, inode := 10 },
      { here := ⟨.v4 ⟨10, 0, 0, 8⟩, 22, 0⟩, remote := ⟨.v4 .unspecified, 0, 0⟩,
        state := Socket.listening, uid := 0, inode := 11 },
      { here := ⟨.v4 ⟨10, 0, 0, 8⟩, 22, 0⟩, remote := ⟨.v4 .unspecified, 0, 0⟩,
        state := Socket.listening, uid := 0, inode := 0 },
      { here := ⟨.v4 ⟨10, 0, 0, 8⟩, 22, 0⟩, remote := ⟨.v4 ⟨10, 0, 0, 51⟩, 52000, 0⟩,
        state := 1, uid := 0, inode := 12 }]

/-- A connection of the same host to another port. -/
def webSocket : Socket where
  here := ⟨.v4 ⟨10, 0, 0, 8⟩, 40000, 0⟩
  remote := ⟨.v4 ⟨10, 0, 0, 60⟩, 80, 0⟩
  state := 1
  uid := 1000
  inode := 13

/-- A connection that has no socket yet belongs to the listener at its address with an inode, also
besides a socket that has nothing to do with it. -/
theorem find?_besides_others :
    (∀ s ∈ [webSocket], sshTable.isLocal s.here.address = true) ∧
      (∀ s ∈ [webSocket], ∀ fit, ¬ sshTable.Admits ⟨.v4 ⟨10, 0, 0, 8⟩, 22, 0⟩
        (some ⟨.v4 ⟨10, 0, 0, 60⟩, 53000, 0⟩) s fit) ∧
      ((sshTable.extend [webSocket]).find? ⟨.v4 ⟨10, 0, 0, 8⟩, 22, 0⟩
        (some ⟨.v4 ⟨10, 0, 0, 60⟩, 53000, 0⟩)).map Socket.inode = some 11 := by
  have hlocal : ∀ s ∈ [webSocket], sshTable.isLocal s.here.address = true := by decide
  have hnot : ∀ s ∈ [webSocket], ∀ fit, ¬ sshTable.Admits ⟨.v4 ⟨10, 0, 0, 8⟩, 22, 0⟩
      (some ⟨.v4 ⟨10, 0, 0, 60⟩, 53000, 0⟩) s fit := by
    rw [List.forall_mem_singleton]
    exact fit?_eq_none_iff.mp (by decide)
  refine ⟨hlocal, hnot, ?_⟩
  rw [(choice_of_find? sshTable _ _).2.2 [webSocket] hlocal hnot]
  decide

end SocketTable

end FlowAudit
