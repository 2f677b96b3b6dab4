import FlowAudit.Resolver
import FlowAudit.Proofs.Bounded.View
import FlowAudit.Proofs.Host.Process

/-!
# What a resolver remembers

A resolver is `Reachable` when a new one was asked any number of times, of hosts that may be
different ones each time. Whatever is kept by looking for holders and for the names of users is kept
by everything a resolver does (`Reachable.invariant`), and three things are: the numbers it
remembers are those of processes (`Remembers`), it has room for as many of them as at first
(`Reachable.capacity_holders`), and if the names of users never change it remembers them as they are
(`KnowsUsers`). That a remembered process still holds its inode is not among them.
-/

namespace FlowAudit.Resolver

/-! ### Reachable resolvers -/

/-- A new resolver, or one that was asked of a host, and which holds of each host it was asked
of. -/
inductive Reachable (hosts : HostHistory → Prop) (proc : Path) (settings : ResolverSettings) :
    Resolver → Prop
  | new : Reachable hosts proc settings (.new proc settings)
  | resolve {r : Resolver} (h : Reachable hosts proc settings r) {host : HostHistory}
      (hhost : hosts host) (protocol : Protocol) (endpoint : Endpoint) :
      Reachable hosts proc settings (r.resolve host protocol endpoint).2
  | resolveConnection {r : Resolver} (h : Reachable hosts proc settings r) {host : HostHistory}
      (hhost : hosts host) (c : Connection) :
      Reachable hosts proc settings (r.resolveConnection host c).2

/-- A property of resolvers that is kept while holders and the names of users are looked up. -/
structure IsKept (hosts : HostHistory → Prop) (I : Resolver → Prop) : Prop where
  findHolder : ∀ {r : Resolver} (files : FileTree) (inode : UInt64),
    I r → I (r.findHolder files inode).2
  username : ∀ {r : Resolver} {host : HostHistory} (uid : UInt32),
    hosts host → I r → I (r.username host.users uid).2

section Kept

variable {hosts : HostHistory → Prop} {I : Resolver → Prop} {r : Resolver} {host : HostHistory}

theorem IsKept.describe (hI : IsKept hosts I) (hhost : hosts host) (files : FileTree) (pid : Pid)
    (uid : UInt32) (hr : I r) : I (r.describe host files pid uid).2 := by
  unfold Resolver.describe
  split
  · exact hr
  · split
    · exact hr
    · exact hI.username uid hhost hr

theorem IsKept.resolveEnd (hI : IsKept hosts I) (hhost : hosts host) (t : Tables)
    (endpoint : Endpoint) (peer : Option Endpoint) (hr : I r) :
    I (r.resolveEnd host t endpoint peer).2.2 := by
  unfold Resolver.resolveEnd
  dsimp only
  split
  · exact hr
  · split
    · exact hr
    · split
      · exact hI.findHolder _ _ hr
      · exact hI.describe hhost _ _ _ (hI.findHolder _ _ hr)

theorem IsKept.resolve (hI : IsKept hosts I) (hhost : hosts host) (protocol : Protocol)
    (endpoint : Endpoint) (hr : I r) : I (r.resolve host protocol endpoint).2 := by
  unfold Resolver.resolve
  split
  · exact hr
  · exact hI.resolveEnd hhost _ _ _ hr

theorem IsKept.resolveConnection (hI : IsKept hosts I) (hhost : hosts host) (c : Connection)
    (hr : I r) : I (r.resolveConnection host c).2 := by
  unfold Resolver.resolveConnection
  split
  · exact hr
  · dsimp only
    split
    · exact hI.resolveEnd hhost _ _ _ hr
    · split
      · exact hI.resolveEnd hhost _ _ _ (hI.resolveEnd hhost _ _ _ hr)
      · exact hI.resolveEnd hhost _ _ _ (hI.resolveEnd hhost _ _ _ hr)

/-- What a new resolver has and look-ups keep, every reachable resolver has. -/
theorem Reachable.invariant {proc : Path} {settings : ResolverSettings} (hI : IsKept hosts I)
    (hnew : I (.new proc settings)) (h : Reachable hosts proc settings r) : I r := by
  induction h with
  | new => exact hnew
  | resolve _ hhost protocol endpoint ih => exact hI.resolve hhost protocol endpoint ih
  | resolveConnection _ hhost c ih => exact hI.resolveConnection hhost c ih

end Kept

/-! ### Holders -/

/-- The first process that a resolver finds to hold an inode when it remembers none. -/
def scan (r : Resolver) (files : FileTree) (inode : UInt64) : Option Pid :=
  Process.holder? files r.proc r.settings.maxScanProcesses inode

/-- The holders remembered after looking for that of `inode`, when `found` was found. -/
def remember (holders : Bounded UInt64 Pid) (inode : UInt64) (found : Option Pid) :
    Bounded UInt64 Pid :=
  match found with
  | some pid => ((holders.remove inode).2.insert inode pid).2
  | none => (holders.remove inode).2

/-- What looking for a holder does: a remembered process that still holds the inode is answered;
otherwise it is forgotten, and the first process found is answered and remembered. -/
theorem findHolder_cases (r : Resolver) (files : FileTree) (inode : UInt64) :
    (∃ pid, r.holders.get? inode = some pid ∧ Process.holds files r.proc pid inode = true ∧
      r.findHolder files inode = (some pid, r)) ∨
    r.findHolder files inode = (r.scan files inode,
      { r with holders := remember r.holders inode (r.scan files inode) }) := by
  unfold findHolder
  split
  · rename_i pid hpid
    obtain ⟨hget, hholds⟩ := Option.filter_eq_some_iff.mp hpid
    exact .inl ⟨pid, hget, hholds, rfl⟩
  · refine .inr ?_
    dsimp only [scan]
    cases Process.holder? files r.proc r.settings.maxScanProcesses inode <;> rfl

/-- What every resolver for the processes below `proc` has: it remembers numbers of processes
only. -/
structure Remembers (proc : Path) (settings : ResolverSettings) (r : Resolver) : Prop where
  proc_eq : r.proc = proc
  settings_eq : r.settings = settings
  valid : r.holders.Valid
  isPid : ∀ inode pid, r.holders.get? inode = some pid → Process.IsPid pid ∧ proc.text ≠ ""

section Remembers

variable {proc : Path} {settings : ResolverSettings} {r : Resolver}

theorem remembers_new (proc : Path) (settings : ResolverSettings) :
    Remembers proc settings (.new proc settings) where
  proc_eq := rfl
  settings_eq := rfl
  valid := Bounded.valid_empty _
  isPid inode pid h := by simp [new] at h

/-- What is remembered after looking for a holder was remembered before or is what was found. -/
theorem get?_of_remember {holders : Bounded UInt64 Pid} (h : holders.Valid)
    {inode inode' : UInt64} {found : Option Pid} {pid : Pid}
    (hget : (remember holders inode found).get? inode' = some pid) :
    found = some pid ∨ holders.get? inode' = some pid := by
  have hremove : ∀ {pid}, (holders.remove inode).2.get? inode' = some pid →
      holders.get? inode' = some pid := by
    intro pid hpid
    rw [Bounded.get?_remove] at hpid
    split at hpid
    · cases hpid
    · exact hpid
  cases found with
  | none => exact .inr (hremove hget)
  | some new =>
    rcases (h.remove inode).2.2.get?_of_insert hget with ⟨-, rfl⟩ | hold
    · exact .inl rfl
    · exact .inr (hremove hold)

theorem valid_remember {holders : Bounded UInt64 Pid} (h : holders.Valid) (inode : UInt64)
    (found : Option Pid) : (remember holders inode found).Valid := by
  cases found with
  | none => exact (h.remove inode).2.2
  | some pid => exact ((h.remove inode).2.2.insert inode pid).2.2.2

theorem Remembers.findHolder (hr : Remembers proc settings r) (files : FileTree) (inode : UInt64) :
    Remembers proc settings (r.findHolder files inode).2 := by
  obtain ⟨pid, -, -, heq⟩ | heq := findHolder_cases r files inode
  · rw [heq]
    exact hr
  · rw [heq]
    refine ⟨hr.proc_eq, hr.settings_eq, valid_remember hr.valid _ _, fun inode' pid hget => ?_⟩
    rcases get?_of_remember hr.valid hget with hnew | hold
    · obtain ⟨hmem, -⟩ := Process.holder?_spec hnew
      rw [hr.proc_eq] at hmem
      exact ⟨Process.isPid_of_mem_pids hmem, Process.ne_empty_of_mem_pids hmem⟩
    · exact hr.isPid inode' pid hold

/-- Whatever process is found, remembered or not, is listed and holds the inode now. -/
theorem Remembers.fst_findHolder (hr : Remembers proc settings r) {files : FileTree}
    {inode : UInt64} {pid : Pid} (h : (r.findHolder files inode).1 = some pid) :
    pid ∈ Process.pids files proc ∧ Process.holds files proc pid inode = true := by
  obtain ⟨remembered, hget, hholds, heq⟩ | heq := findHolder_cases r files inode
  · rw [heq] at h
    obtain rfl := Option.some.inj h
    obtain ⟨hpid, hproc⟩ := hr.isPid inode remembered hget
    rw [hr.proc_eq] at hholds
    exact ⟨Process.mem_pids_of_holds hpid hproc hholds, hholds⟩
  · rw [heq] at h
    rw [← hr.proc_eq]
    exact Process.holder?_spec h

theorem Remembers.username (hr : Remembers proc settings r) (users : UInt32 → Option String)
    (uid : UInt32) : Remembers proc settings (r.username users uid).2 := by
  unfold Resolver.username
  split
  · exact hr
  · exact ⟨hr.proc_eq, hr.settings_eq, hr.valid, hr.isPid⟩

theorem isKept_remembers (hosts : HostHistory → Prop) (proc : Path)
    (settings : ResolverSettings) : IsKept hosts (Remembers proc settings) where
  findHolder files inode hr := hr.findHolder files inode
  username uid _ hr := hr.username _ uid

/-- Every reachable resolver remembers numbers of processes only. -/
theorem Reachable.remembers {hosts : HostHistory → Prop} (h : Reachable hosts proc settings r) :
    Remembers proc settings r :=
  h.invariant (isKept_remembers hosts proc settings) (remembers_new proc settings)

end Remembers

/-! ### How many holders are remembered -/

theorem capacity_remember {holders : Bounded UInt64 Pid} (h : holders.Valid) (inode : UInt64)
    (found : Option Pid) : (remember holders inode found).capacity = holders.capacity := by
  obtain ⟨-, hremove, hvalid⟩ := h.remove inode
  cases found with
  | none => exact hremove
  | some pid => exact (hvalid.insert inode pid).2.2.1.trans hremove

/-- Whatever a resolver finds, it makes no more room for holders than it was given. -/
theorem isKept_capacity (hosts : HostHistory → Prop) (n : Nat) :
    IsKept hosts fun r => r.holders.Valid ∧ r.holders.capacity = n where
  findHolder := by
    rintro r files inode ⟨hvalid, hcapacity⟩
    obtain ⟨pid, -, -, heq⟩ | heq := findHolder_cases r files inode
    · rw [heq]
      exact ⟨hvalid, hcapacity⟩
    · rw [heq]
      exact ⟨valid_remember hvalid _ _, (capacity_remember hvalid _ _).trans hcapacity⟩
  username := by
    rintro r host uid - h
    unfold Resolver.username
    split <;> exact h

/-- Every reachable resolver has room for as many holders as it was given at first. -/
theorem Reachable.capacity_holders {hosts : HostHistory → Prop} {proc : Path}
    {settings : ResolverSettings} {r : Resolver} (h : Reachable hosts proc settings r) :
    r.holders.Valid ∧ r.holders.capacity = max settings.pidCacheCapacity 1 :=
  h.invariant (isKept_capacity hosts _) ⟨Bounded.valid_empty _, rfl⟩

/-! ### The names of users -/

/-- A resolver remembers the names of users as they are. -/
def KnowsUsers (users : UInt32 → Option String) (r : Resolver) : Prop :=
  ∀ uid name, r.usernames[uid]? = some name → name = users uid

section KnowsUsers

variable {users : UInt32 → Option String} {r : Resolver}

theorem KnowsUsers.fst_username (hr : KnowsUsers users r) (uid : UInt32) :
    (r.username users uid).1 = users uid := by
  unfold username
  split
  · rename_i name hname
    exact hr uid name hname
  · rfl

theorem KnowsUsers.username (hr : KnowsUsers users r) (uid : UInt32) :
    KnowsUsers users (r.username users uid).2 := by
  unfold Resolver.username
  split
  · exact hr
  · intro uid' name hname
    rw [Std.HashMap.getElem?_insert] at hname
    split at hname
    · rename_i huid
      rw [← eq_of_beq huid]
      exact (Option.some.inj hname).symm
    · exact hr uid' name hname

theorem KnowsUsers.findHolder (hr : KnowsUsers users r) (files : FileTree) (inode : UInt64) :
    KnowsUsers users (r.findHolder files inode).2 := by
  obtain ⟨pid, -, -, heq⟩ | heq := findHolder_cases r files inode
  · rw [heq]
    exact hr
  · rw [heq]
    exact hr

theorem isKept_knowsUsers (users : UInt32 → Option String) :
    IsKept (fun host => host.users = users) (KnowsUsers users) where
  findHolder files inode hr := hr.findHolder files inode
  username := by
    rintro r host uid rfl hr
    exact hr.username uid

theorem knowsUsers_new (users : UInt32 → Option String) (proc : Path)
    (settings : ResolverSettings) : KnowsUsers users (.new proc settings) := by
  intro uid name hname
  simp [new] at hname

/-- A resolver that was only asked of hosts with the same users knows them. -/
theorem Reachable.knowsUsers {proc : Path} {settings : ResolverSettings}
    (h : Reachable (fun host => host.users = users) proc settings r) : KnowsUsers users r :=
  h.invariant (isKept_knowsUsers users) (knowsUsers_new users proc settings)

end KnowsUsers

end FlowAudit.Resolver
