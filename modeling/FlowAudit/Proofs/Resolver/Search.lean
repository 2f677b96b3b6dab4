import FlowAudit.Proofs.Resolver.Memory

/-!
# Searches that read the socket tables again

A search goes through readings of the socket tables that may all differ, or fail. It goes on only
from a reading that shows a socket without an inode (`IsPending`), so it stops with the first one
that fails, shows no socket that fits, or shows one with an inode; with the last reading it may make
it takes the socket as it is (`Search`). The readings determine where it stops and what it finds
(`Search.unique`), and this is what `findSocket` does (`findSocket_spec`).

A search keeps the tables that were read last (`lastRead?`), also when its last reading failed. One
end of a connection is answered for the socket that its search finds, and a socket without an inode
counts as none (`resolveEnd_search`, `resolveEnd_eq_unresolved_iff`).
-/

namespace FlowAudit

theorem SocketTable.protocol_of_read {files : FileTree} {proc : Path} {protocol : Protocol}
    {table : SocketTable} (h : SocketTable.read files proc protocol = .ok table) :
    table.protocol = protocol := by
  unfold SocketTable.read at h
  cases hsockets : readSockets files proc protocol.socketTables with
  | error e => simp [hsockets, bind, Except.bind] at h
  | ok sockets =>
    simp only [hsockets, bind, Except.bind, pure, Except.pure, Except.ok.injEq] at h
    rw [← h]

namespace Resolver

/-! ### Searches -/

/-- A reading that shows the socket that fits best, and no inode for it. -/
def IsPending (endpoint : Endpoint) (peer : Option Endpoint) (reading : Option SocketTable) :
    Prop :=
  ∃ table s, reading = some table ∧ table.find? endpoint peer = some s ∧ s.inode = 0

/-- Why a search stops with a reading, and what it finds then. -/
inductive Stop (endpoint : Endpoint) (peer : Option Endpoint) (isLast : Prop) :
    (reading : Option SocketTable) → (found : Option Socket) → Prop
  | unreadable : Stop endpoint peer isLast none none
  | absent {table : SocketTable} (h : table.find? endpoint peer = none) :
      Stop endpoint peer isLast (some table) none
  | known {table : SocketTable} {s : Socket} (h : table.find? endpoint peer = some s)
      (hinode : s.inode ≠ 0) : Stop endpoint peer isLast (some table) (some s)
  | pending {table : SocketTable} {s : Socket} (h : table.find? endpoint peer = some s)
      (hinode : s.inode = 0) (hlast : isLast) : Stop endpoint peer isLast (some table) (some s)

/-- A search through the readings `tables`, which may go on `retries` times, stops with the reading
of number `k`. -/
structure Search (tables : Nat → Option SocketTable) (endpoint : Endpoint) (peer : Option Endpoint)
    (retries k : Nat) (found : Option Socket) : Prop where
  le : k ≤ retries
  pending : ∀ j < k, IsPending endpoint peer (tables j)
  stop : Stop endpoint peer (k = retries) (tables k) found

section Search

variable {tables : Nat → Option SocketTable} {endpoint : Endpoint} {peer : Option Endpoint}
  {retries k : Nat} {found : Option Socket} {reading : Option SocketTable} {isLast : Prop}

/-- What is found is the socket that fits best, if one could be looked for. -/
theorem Stop.found_eq (h : Stop endpoint peer isLast reading found) :
    found = reading.bind (·.find? endpoint peer) := by
  cases h with
  | unreadable => rfl
  | absent h => exact h.symm
  | known h => exact h.symm
  | pending h => exact h.symm

/-- A search stops with a pending reading only if it may not go on. -/
theorem Stop.isLast_of_isPending (h : Stop endpoint peer isLast reading found)
    (hpending : IsPending endpoint peer reading) : isLast := by
  obtain ⟨table, s, rfl, hfind, hinode⟩ := hpending
  cases h with
  | absent h => rw [hfind] at h; cases h
  | known h hne =>
    obtain rfl := Option.some.inj (hfind.symm.trans h)
    exact absurd hinode hne
  | pending _ _ hlast => exact hlast

/-- Of two searches through the same readings neither goes further than the other. -/
theorem Search.le_of_search {k' : Nat} {found' : Option Socket}
    (h : Search tables endpoint peer retries k found)
    (h' : Search tables endpoint peer retries k' found') : k' ≤ k := by
  by_contra hlt
  -- The other search went on from reading `k`, so this one stopped there for want of retries only.
  have hlast := h.stop.isLast_of_isPending (h'.pending k (by omega))
  have := h'.le
  omega

/-- The readings determine where a search stops and what it finds. -/
theorem Search.unique {k' : Nat} {found' : Option Socket}
    (h : Search tables endpoint peer retries k found)
    (h' : Search tables endpoint peer retries k' found') : k = k' ∧ found = found' := by
  obtain rfl : k = k' := le_antisymm (h'.le_of_search h) (h.le_of_search h')
  exact ⟨rfl, h.stop.found_eq.trans h'.stop.found_eq.symm⟩

/-- The first reading may be the one that a search stops with. -/
theorem Search.first (h : Stop endpoint peer (0 = retries) (tables 0) found) :
    Search tables endpoint peer retries 0 found where
  le := Nat.zero_le _
  pending j hj := absurd hj (Nat.not_lt_zero j)
  stop := h

/-- From a pending reading a search goes on as one that begins with the next reading. -/
theorem Search.again (hpending : IsPending endpoint peer (tables 0))
    (h : Search (fun j => tables (j + 1)) endpoint peer retries k found) :
    Search tables endpoint peer (retries + 1) (k + 1) found where
  le := Nat.succ_le_succ h.le
  pending := by
    rintro (_ | j) hj
    · exact hpending
    · exact h.pending j (by omega)
  stop := by
    rw [Nat.add_right_cancel_iff]
    exact h.stop

/-- A search whose first reading fails finds nothing. -/
theorem Search.of_unreadable (h : Search tables endpoint peer retries k found)
    (hread : tables 0 = none) : k = 0 ∧ found = none :=
  h.unique (.first (by rw [hread]; exact .unreadable))

/-- A search in which every reading is pending goes on to the last one. -/
theorem Search.of_isPending (h : ∀ j ≤ retries, IsPending endpoint peer (tables j)) :
    ∃ s, s.inode = 0 ∧ Search tables endpoint peer retries retries (some s) := by
  obtain ⟨table, s, htable, hfind, hinode⟩ := h retries le_rfl
  refine ⟨s, hinode, le_rfl, fun j hj => h j hj.le, ?_⟩
  rw [htable]
  exact .pending hfind hinode rfl

end Search

/-! ### Readings -/

/-- The tables that were read last, of the readings up to number `k`. -/
def lastRead? (tables : Nat → Option SocketTable) : (k : Nat) → Option SocketTable
  | 0 => tables 0
  | k + 1 => (tables (k + 1)).or (lastRead? tables k)

theorem lastRead?_succ (tables : Nat → Option SocketTable) (k : Nat) :
    lastRead? tables (k + 1) = (lastRead? (fun j => tables (j + 1)) k).or (tables 0) := by
  induction k with
  | zero => rfl
  | succ k ih => rw [lastRead?, ih, lastRead?, Option.or_assoc]

theorem lastRead?_of_eq_some {tables : Nat → Option SocketTable} {k : Nat} {table : SocketTable}
    (h : tables k = some table) : lastRead? tables k = some table := by
  cases k with
  | zero => exact h
  | succ k => rw [lastRead?, h, Option.some_or]

/-- They are the tables of one of the readings, and those after it all failed. -/
theorem lastRead?_spec {tables : Nat → Option SocketTable} {k : Nat} {table : SocketTable}
    (h : lastRead? tables k = some table) :
    ∃ j ≤ k, tables j = some table ∧ ∀ i, j < i → i ≤ k → tables i = none := by
  induction k with
  | zero => exact ⟨0, le_rfl, h, fun i hi hi' => by omega⟩
  | succ k ih =>
    rw [lastRead?, Option.or_eq_some_iff] at h
    rcases h with hnow | ⟨hnow, hbefore⟩
    · exact ⟨k + 1, le_rfl, hnow, fun i hi hi' => by omega⟩
    · obtain ⟨j, hj, htable, hfailed⟩ := ih hbefore
      refine ⟨j, by omega, htable, fun i hi hi' => ?_⟩
      obtain rfl | hlt := Nat.eq_or_lt_of_le hi'
      · exact hnow
      · exact hfailed i hi (by omega)

/-- The readings that a search sees when it begins with tables that are already there: those, and
then the readings to come. -/
def Tables.onward (t : Tables) (tables : Nat → Option SocketTable) : (k : Nat) → Option SocketTable
  | 0 => some t.table
  | k + 1 => tables (t.readings + k)

/-- A search that begins with what the first reading showed sees all readings. -/
theorem Tables.onward_first (tables : Nat → Option SocketTable) {table : SocketTable}
    (h : tables 0 = some table) : (Tables.mk table 1).onward tables = tables := by
  funext k
  cases k with
  | zero => exact h.symm
  | succ k => rw [Tables.onward, Nat.add_comm]

section Readings

variable {r : Resolver} {host : HostHistory} {endpoint : Endpoint} {peer : Option Endpoint}
  {retries : Nat} {t : Tables}

theorem protocol_of_readTable? {reading : Nat} {protocol : Protocol} {table : SocketTable}
    (h : r.readTable? host reading protocol = some table) : table.protocol = protocol := by
  cases hread : SocketTable.read (host.files reading) r.proc protocol with
  | error e =>
    rw [readTable?, hread] at h
    cases h
  | ok read =>
    rw [readTable?, hread] at h
    obtain rfl := Option.some.inj h
    exact SocketTable.protocol_of_read hread

/-- A search in the tables of a host: it answers what is found in the reading it stops with, keeps
the tables that were read last, and counts its readings. -/
theorem findSocket_spec (r : Resolver) (host : HostHistory) (endpoint : Endpoint)
    (peer : Option Endpoint) (retries : Nat) (t : Tables) :
    ∃ k, Search (t.onward (r.readTable? host · t.table.protocol)) endpoint peer retries k
        (r.findSocket host endpoint peer retries t).1 ∧
      lastRead? (t.onward (r.readTable? host · t.table.protocol)) k =
        some (r.findSocket host endpoint peer retries t).2.table ∧
      (r.findSocket host endpoint peer retries t).2.readings = t.readings + k := by
  fun_induction r.findSocket host endpoint peer retries t with
  | case1 retries t h => exact ⟨0, .first (.absent h), rfl, rfl⟩
  | case2 retries t s h hinode => exact ⟨0, .first (.known h hinode), rfl, rfl⟩
  | case3 t s h hinode =>
    exact ⟨0, .first (.pending h (not_not.mp hinode) rfl), rfl, rfl⟩
  | case4 t s h hinode retries hread =>
    refine ⟨1, .again ⟨_, s, rfl, h, not_not.mp hinode⟩ (.first ?_), ?_, rfl⟩
    · rw [Tables.onward, Nat.add_zero, hread]
      exact .unreadable
    · rw [lastRead?, Tables.onward, Nat.add_zero, hread]
      rfl
  | case5 t s h hinode retries table hread ih =>
    have hprotocol := protocol_of_readTable? hread
    -- What is left of the readings is what the next round sees.
    have honward : (fun k => t.onward (r.readTable? host · t.table.protocol) (k + 1)) =
        (Tables.mk table (t.readings + 1)).onward (r.readTable? host · table.protocol) := by
      funext k
      cases k with
      | zero => exact hread
      | succ k =>
        rw [Tables.onward, Tables.onward, hprotocol, Nat.add_assoc t.readings, Nat.add_comm 1 k]
    obtain ⟨k, hsearch, hlast, hreadings⟩ := ih
    refine ⟨k + 1, .again ⟨_, s, rfl, h, not_not.mp hinode⟩ ?_, ?_, ?_⟩
    · rw [honward]
      exact hsearch
    · rw [lastRead?_succ, honward, hlast, Option.some_or]
    · rw [hreadings]
      exact Nat.add_right_comm _ _ _

end Readings

/-! ### Answers -/

/-- The socket that was found, if its inode is known. -/
def known? (found : Option Socket) : Option Socket :=
  found.filter (·.inode ≠ 0)

theorem known?_of_eq {s : Socket} (h : s.inode = 0) : known? (some s) = none :=
  Option.filter_some_neg (by simp [h])

theorem known?_of_ne {s : Socket} (h : s.inode ≠ 0) : known? (some s) = some s :=
  Option.filter_some_pos (by simp [h])

/-- The process behind a socket with a known inode. -/
def attribution? (r : Resolver) (host : HostHistory) (files : FileTree) (s : Socket) :
    Option Attribution :=
  (r.findHolder files s.inode).1.bind fun pid =>
    ((r.findHolder files s.inode).2.describe host files pid s.uid).1

/-- What is answered for a socket with a known inode, if there is one. -/
def answer (r : Resolver) (host : HostHistory) (files : FileTree) : Option Socket → Resolution
  | none => .unresolved
  | some s => ⟨some s.inode, r.attribution? host files s⟩

/-- The resolver after the answer for a socket with a known inode, if there is one. -/
def afterAnswer (r : Resolver) (host : HostHistory) (files : FileTree) : Option Socket → Resolver
  | none => r
  | some s =>
    match r.findHolder files s.inode with
    | (none, r) => r
    | (some pid, r) => (r.describe host files pid s.uid).2

/-- The answer for a connection, from those for its source and for its destination. -/
def prefer (outbound inbound : Resolution) : Resolution :=
  if outbound.attribution.isSome then outbound
  else if inbound.attribution.isSome || outbound.inode.isNone then inbound
  else outbound

theorem prefer_eq (outbound inbound : Resolution) :
    prefer outbound inbound = outbound ∨ prefer outbound inbound = inbound := by
  unfold prefer
  split
  · exact .inl rfl
  · split
    · exact .inr rfl
    · exact .inl rfl

theorem prefer_unresolved (inbound : Resolution) : prefer .unresolved inbound = inbound := by
  simp [prefer, Resolution.unresolved]

/-! ### Ends of connections -/

/-- One end of a connection comes to what the search for it finds: a socket without an inode is as
good as none. -/
theorem resolveEnd_eq (r : Resolver) (host : HostHistory) (t : Tables) (endpoint : Endpoint)
    (peer : Option Endpoint) :
    r.resolveEnd host t endpoint peer =
      let (found, t) := r.findSocket host endpoint peer r.settings.socketRetryAttempts.toNat t
      let files := host.files (t.readings - 1)
      (r.answer host files (known? found), t, r.afterAnswer host files (known? found)) := by
  unfold resolveEnd
  dsimp only
  split
  · rename_i hfind
    rw [hfind]
    rfl
  · rename_i s hfind
    rw [hfind]
    by_cases hinode : s.inode = 0
    · rw [if_pos hinode, known?_of_eq hinode]
      rfl
    · rw [if_neg hinode, known?_of_ne hinode]
      dsimp only [answer, afterAnswer, attribution?]
      cases r.findHolder _ s.inode with
      | mk holder r' => cases holder <;> rfl

theorem le_readings_resolveEnd (r : Resolver) (host : HostHistory) (t : Tables)
    (endpoint : Endpoint) (peer : Option Endpoint) :
    t.readings ≤ (r.resolveEnd host t endpoint peer).2.1.readings := by
  obtain ⟨k, -, -, hreadings⟩ :=
    findSocket_spec r host endpoint peer r.settings.socketRetryAttempts.toNat t
  rw [resolveEnd_eq]
  dsimp only
  omega

/-- A resolver keeps its place and its settings. -/
theorem isKept_setup (proc : Path) (settings : ResolverSettings) :
    IsKept (fun _ => True) fun r => r.proc = proc ∧ r.settings = settings where
  findHolder {r} files inode hr := by
    obtain ⟨pid, -, -, heq⟩ | heq := findHolder_cases r files inode
    · rw [heq]
      exact hr
    · rw [heq]
      exact hr
  username {r host} uid _ hr := by
    unfold username
    split
    · exact hr
    · exact hr

theorem setup_resolveEnd (r : Resolver) (host : HostHistory) (t : Tables) (endpoint : Endpoint)
    (peer : Option Endpoint) :
    (r.resolveEnd host t endpoint peer).2.2.proc = r.proc ∧
      (r.resolveEnd host t endpoint peer).2.2.settings = r.settings :=
  (isKept_setup r.proc r.settings).resolveEnd trivial t endpoint peer ⟨rfl, rfl⟩

/-- One end of a connection, looked for after reading number `n`, is answered from the reading that
the search for it stops with. -/
theorem resolveEnd_search (r : Resolver) (host : HostHistory) {protocol : Protocol}
    {table : SocketTable} (hprotocol : table.protocol = protocol) (n : Nat) (endpoint : Endpoint)
    (peer : Option Endpoint) :
    ∃ k found last,
      Search ((Tables.mk table (n + 1)).onward (r.readTable? host · protocol)) endpoint peer
        r.settings.socketRetryAttempts.toNat k found ∧
      lastRead? ((Tables.mk table (n + 1)).onward (r.readTable? host · protocol)) k = some last ∧
      r.resolveEnd host ⟨table, n + 1⟩ endpoint peer =
        (r.answer host (host.files (n + k)) (known? found), ⟨last, n + k + 1⟩,
          r.afterAnswer host (host.files (n + k)) (known? found)) := by
  subst hprotocol
  obtain ⟨k, hsearch, hlast, hreadings⟩ :=
    findSocket_spec r host endpoint peer r.settings.socketRetryAttempts.toNat ⟨table, n + 1⟩
  rw [resolveEnd_eq]
  generalize r.findSocket host endpoint peer r.settings.socketRetryAttempts.toNat
    ⟨table, n + 1⟩ = search at hsearch hlast hreadings ⊢
  obtain ⟨found, last, readings⟩ := search
  obtain rfl : readings = n + k + 1 := hreadings.trans (Nat.add_right_comm _ _ _)
  exact ⟨k, found, last, hsearch, hlast, rfl⟩

/-- One end of a connection stays unresolved just when no socket is found for it or one without an
inode. -/
theorem resolveEnd_eq_unresolved_iff (r : Resolver) (host : HostHistory) (t : Tables)
    (endpoint : Endpoint) (peer : Option Endpoint) :
    (r.resolveEnd host t endpoint peer).1 = .unresolved ↔
      ∀ s, (r.findSocket host endpoint peer r.settings.socketRetryAttempts.toNat t).1 = some s →
        s.inode = 0 := by
  rw [resolveEnd_eq]
  dsimp only
  cases (r.findSocket host endpoint peer r.settings.socketRetryAttempts.toNat t).1 with
  | none => simp [known?, answer]
  | some s =>
    by_cases hinode : s.inode = 0
    · simp [known?_of_eq hinode, answer, hinode]
    · simp [known?_of_ne hinode, answer, Resolution.unresolved, hinode]

end Resolver

end FlowAudit
