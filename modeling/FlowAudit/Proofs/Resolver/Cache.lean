import FlowAudit.Proofs.Resolver.Still

/-!
# Remembering changes no answer

While each inode is held by at most one process and all processes are looked at, an answer is a
function of the host alone (`plainAnswer`): looking for a holder comes to the one process that holds
the inode, whether or not one is remembered (`Remembers.fst_findHolder_eq`). So a resolver with a
history answers like a new one (`resolveConnection_of_heldByOne`).
-/

namespace FlowAudit.Resolver

/-- No inode is held by two of the listed processes. -/
def HeldByOne (files : FileTree) (proc : Path) : Prop :=
  ∀ inode, ∀ pid ∈ Process.pids files proc, ∀ pid' ∈ Process.pids files proc,
    Process.holds files proc pid inode = true → Process.holds files proc pid' inode = true →
      pid = pid'

/-- The process `pid` can be named for an end of a connection, which comes to the socket `s`. -/
structure IsOwner (files : FileTree) (proc : Path) (protocol : Protocol) (endpoint peer : Endpoint)
    (s : Socket) (pid : Pid) : Prop where
  found : ∃ table, SocketTable.read files proc protocol = .ok table ∧
    table.find? endpoint (some peer) = some s
  inode_ne : s.inode ≠ 0
  listed : pid ∈ Process.pids files proc
  holds : Process.holds files proc pid s.inode = true
  name : (Process.name? files proc pid).isSome = true
  nonneg : 0 ≤ pid

/-- An answer names the process `pid` for the socket `s`. -/
structure Names (files : FileTree) (users : UInt32 → Option String) (proc : Path)
    (found : Resolution) (s : Socket) (pid : Pid) : Prop where
  inode : found.inode = some s.inode
  attribution : ∃ a, found.attribution = some a ∧ (a.pid.toNat : Pid) = pid ∧
    Process.name? files proc pid = some a.processName ∧
    a.commandLine = Process.arguments files proc pid ∧ a.uid = s.uid ∧ a.username = users s.uid

theorem Names.isSome {files : FileTree} {users : UInt32 → Option String} {proc : Path}
    {found : Resolution} {s : Socket} {pid : Pid} (h : Names files users proc found s pid) :
    found.attribution.isSome = true := by
  obtain ⟨a, ha, -⟩ := h.attribution
  rw [ha, Option.isSome_some]

/-! ### Answers without memory -/

/-- The first process that holds a socket, described. -/
def plainAttribution? (files : FileTree) (users : UInt32 → Option String) (proc : Path)
    (s : Socket) : Option Attribution :=
  (Process.firstHolder? files proc s.inode).bind fun pid =>
    if pid < 0 then none
    else (Process.name? files proc pid).map fun name =>
      { pid := UInt32.ofNat pid.toNat, processName := name,
        commandLine := Process.arguments files proc pid, uid := s.uid, username := users s.uid }

/-- What is answered for a socket with a known inode, if there is one, by the host alone. -/
def plainAnswer (files : FileTree) (users : UInt32 → Option String) (proc : Path) :
    Option Socket → Resolution
  | none => .unresolved
  | some s => ⟨some s.inode, plainAttribution? files users proc s⟩

/-- What is answered for a connection by the host alone, with its socket tables read. -/
def plainConnection (files : FileTree) (users : UInt32 → Option String) (proc : Path)
    (table : SocketTable) (c : Connection) : Resolution :=
  prefer (plainAnswer files users proc (table.findKnown? c.source c.destination))
    (plainAnswer files users proc (table.findKnown? c.destination c.source))

section Plain

variable {files : FileTree} {users : UInt32 → Option String} {proc : Path}
  {settings : ResolverSettings} {r : Resolver}

section HeldByOne

variable (hone : HeldByOne files proc)
include hone

theorem HeldByOne.firstHolder?_eq {inode : UInt64} {pid : Pid} (hmem : pid ∈ Process.pids files proc)
    (hholds : Process.holds files proc pid inode = true) :
    Process.firstHolder? files proc inode = some pid := by
  obtain ⟨found, hfound⟩ := Option.isSome_iff_exists.mp (Process.isSome_firstHolder? hmem hholds)
  obtain ⟨hmem', hholds'⟩ := Process.firstHolder?_spec hfound
  rw [hfound, hone inode found hmem' pid hmem hholds' hholds]

/-- The one process that holds a socket is described. -/
theorem HeldByOne.plainAttribution?_eq (users : UInt32 → Option String) {s : Socket} {pid : Pid}
    {name : String} (hmem : pid ∈ Process.pids files proc)
    (hholds : Process.holds files proc pid s.inode = true) (hnonneg : 0 ≤ pid)
    (hname : Process.name? files proc pid = some name) :
    plainAttribution? files users proc s = some {
      pid := UInt32.ofNat pid.toNat
      processName := name
      commandLine := Process.arguments files proc pid
      uid := s.uid
      username := users s.uid } := by
  rw [plainAttribution?, hone.firstHolder?_eq hmem hholds, Option.bind_some,
    if_neg (Int.not_lt.mpr hnonneg), hname, Option.map_some]

variable (hlimit : (Process.pids files proc).length ≤ settings.maxScanProcesses)
include hlimit

/-- A resolver finds the one process that holds an inode, whatever it remembers. -/
theorem Remembers.fst_findHolder_eq (hr : Remembers proc settings r) (inode : UInt64) :
    (r.findHolder files inode).1 = Process.firstHolder? files proc inode := by
  obtain ⟨pid, -, -, heq⟩ | heq := findHolder_cases r files inode
  · have hfst : (r.findHolder files inode).1 = some pid := by rw [heq]
    obtain ⟨hmem, hholds⟩ := hr.fst_findHolder hfst
    rw [hfst, hone.firstHolder?_eq hmem hholds]
  · rw [heq, scan, hr.proc_eq, hr.settings_eq, Process.holder?_eq_firstHolder? hlimit]

variable (hr : Remembers proc settings r) (hknows : KnowsUsers users r)
include hr hknows

theorem Remembers.attribution?_eq (s : Socket) :
    r.attribution? (.still files users) files s = plainAttribution? files users proc s := by
  unfold attribution? plainAttribution?
  rw [hr.fst_findHolder_eq hone hlimit]
  refine Option.bind_congr fun pid hpid => ?_
  have hdirectory := (Process.holds_iff.mp (Process.firstHolder?_spec hpid).2).1
  rw [fst_describe, (hr.findHolder files s.inode).proc_eq, HostHistory.users_still,
    (hknows.findHolder files s.inode).fst_username, hdirectory]
  simp

theorem Remembers.answer_eq (found : Option Socket) :
    r.answer (.still files users) files found = plainAnswer files users proc found := by
  cases found with
  | none => rfl
  | some s => rw [answer, plainAnswer, hr.attribution?_eq hone hlimit hknows]

/-- A connection comes to what the host alone says about its source and its destination. -/
theorem Remembers.fst_resolveConnection {c : Connection} {table : SocketTable}
    (hread : SocketTable.read files proc c.protocol = .ok table) :
    (r.resolveConnection (.still files users) c).1 =
      plainConnection files users proc table c := by
  obtain ⟨r', hkept, hresult⟩ := resolveConnection_still users hr hread
  have hr' := hkept _ _ (isKept_remembers (fun _ => True) proc settings) trivial hr
  have hknows' := hkept _ _ (isKept_knowsUsers users) rfl hknows
  rw [hresult, hr.answer_eq hone hlimit hknows, hr'.answer_eq hone hlimit hknows',
    plainConnection]

end HeldByOne

/-! ### Owners -/

/-- An end that has an owner is answered with it. -/
theorem IsOwner.names {protocol : Protocol} {endpoint peer : Endpoint} {s : Socket} {pid : Pid}
    {table : SocketTable} (h : IsOwner files proc protocol endpoint peer s pid)
    (users : UInt32 → Option String) (hone : HeldByOne files proc)
    (hread : SocketTable.read files proc protocol = .ok table) :
    Names files users proc (plainAnswer files users proc (table.findKnown? endpoint peer)) s
      pid := by
  obtain ⟨table', hread', hfind⟩ := h.found
  obtain rfl := Except.ok.inj (hread.symm.trans hread')
  obtain ⟨name, hname⟩ := Option.isSome_iff_exists.mp h.name
  have hfound : table.findKnown? endpoint peer = some s := by
    rw [SocketTable.findKnown?, hfind, Option.filter_some, if_pos (by simpa using h.inode_ne)]
  have hplain := hone.plainAttribution?_eq users h.listed h.holds h.nonneg hname
  rw [hfound, plainAnswer, hplain]
  exact ⟨rfl, _, rfl, Process.toNat_ofNat_of_isPid (Process.isPid_of_mem_pids h.listed) h.nonneg,
    hname, rfl, rfl, rfl⟩

/-- An answer with a process comes from an owner. -/
theorem exists_isOwner {protocol : Protocol} {endpoint peer : Endpoint} {table : SocketTable}
    (hread : SocketTable.read files proc protocol = .ok table)
    (h : (plainAnswer files users proc (table.findKnown? endpoint peer)).attribution.isSome =
      true) :
    ∃ s pid, IsOwner files proc protocol endpoint peer s pid := by
  cases hfound : table.findKnown? endpoint peer with
  | none => simp [hfound, plainAnswer, Resolution.unresolved] at h
  | some s =>
    obtain ⟨hfind, hinode⟩ := Option.filter_eq_some_iff.mp hfound
    rw [hfound] at h
    obtain ⟨a, ha⟩ := Option.isSome_iff_exists.mp h
    obtain ⟨pid, hholder, hdescribe⟩ := Option.bind_eq_some_iff.mp ha
    obtain ⟨hlisted, hholds⟩ := Process.firstHolder?_spec hholder
    split at hdescribe
    · cases hdescribe
    · rename_i hnonneg
      obtain ⟨name, hname, -⟩ := Option.map_eq_some_iff.mp hdescribe
      exact ⟨s, pid, ⟨table, hread, hfind⟩, by simpa using hinode, hlisted, hholds,
        by rw [hname, Option.isSome_some], Int.not_lt.mp hnonneg⟩

variable {c : Connection} {table : SocketTable} {s : Socket} {pid : Pid}

/-- The owner at the source is named. -/
theorem IsOwner.names_source (h : IsOwner files proc c.protocol c.source c.destination s pid)
    (hone : HeldByOne files proc) (hread : SocketTable.read files proc c.protocol = .ok table) :
    Names files users proc (plainConnection files users proc table c) s pid := by
  have hnames := h.names users hone hread
  rw [plainConnection, prefer, if_pos hnames.isSome]
  exact hnames

/-- The owner at the destination is named if there is none at the source. -/
theorem IsOwner.names_destination (h : IsOwner files proc c.protocol c.destination c.source s pid)
    (hnone : ¬ ∃ s pid, IsOwner files proc c.protocol c.source c.destination s pid)
    (hone : HeldByOne files proc) (hread : SocketTable.read files proc c.protocol = .ok table) :
    Names files users proc (plainConnection files users proc table c) s pid := by
  have hnames := h.names users hone hread
  rw [plainConnection, prefer, if_neg fun hsome => hnone (exists_isOwner hread hsome), if_pos]
  · exact hnames
  · rw [hnames.isSome, Bool.true_or]

theorem isSome_plainConnection_iff (hone : HeldByOne files proc)
    (hread : SocketTable.read files proc c.protocol = .ok table) :
    (plainConnection files users proc table c).attribution.isSome = true ↔
      (∃ s pid, IsOwner files proc c.protocol c.source c.destination s pid) ∨
        ∃ s pid, IsOwner files proc c.protocol c.destination c.source s pid := by
  constructor
  · intro hsome
    rcases prefer_eq (plainAnswer files users proc (table.findKnown? c.source c.destination))
      (plainAnswer files users proc (table.findKnown? c.destination c.source)) with heq | heq
    · rw [plainConnection, heq] at hsome
      exact .inl (exists_isOwner hread hsome)
    · rw [plainConnection, heq] at hsome
      exact .inr (exists_isOwner hread hsome)
  · intro howners
    by_cases hsource : ∃ s pid, IsOwner files proc c.protocol c.source c.destination s pid
    · obtain ⟨s, pid, howner⟩ := hsource
      exact (howner.names_source hone hread).isSome
    · obtain ⟨s, pid, howner⟩ := howners.resolve_left hsource
      exact (howner.names_destination hsource hone hread).isSome

/-- There are no owners while the socket tables cannot be read. -/
theorem not_isOwner_of_unreadable {protocol : Protocol} {e : SystemError}
    (hread : SocketTable.read files proc protocol = .error e) {endpoint peer : Endpoint} :
    ¬ IsOwner files proc protocol endpoint peer s pid := by
  intro howner
  obtain ⟨table, htable, -⟩ := howner.found
  rw [hread] at htable
  cases htable

end Plain

/-! ### Whole calls -/

/-- On a host that stands still during the call, where no inode is held by two processes and all
processes are looked at, a resolver answers like a new one, whatever it was asked before of hosts
with the same users and however much it remembers. It names a process just when an end of the
connection has an owner; the owner at the source is preferred. -/
theorem resolveConnection_of_heldByOne {users : UInt32 → Option String} {proc : Path}
    {settings : ResolverSettings} {r : Resolver}
    (h : Reachable (fun host => host.users = users) proc settings r) {files : FileTree}
    (hone : HeldByOne files proc)
    (hlimit : (Process.pids files proc).length ≤ settings.maxScanProcesses) (capacity : Nat)
    (c : Connection) :
    (r.resolveConnection (.still files users) c).1 =
        ((Resolver.new proc { settings with pidCacheCapacity := capacity }).resolveConnection
          (.still files users) c).1 ∧
      ((r.resolveConnection (.still files users) c).1.attribution.isSome = true ↔
        (∃ s pid, IsOwner files proc c.protocol c.source c.destination s pid) ∨
          ∃ s pid, IsOwner files proc c.protocol c.destination c.source s pid) ∧
      (∀ s pid, IsOwner files proc c.protocol c.source c.destination s pid →
        Names files users proc (r.resolveConnection (.still files users) c).1 s pid) ∧
      (∀ s pid, IsOwner files proc c.protocol c.destination c.source s pid →
        (¬ ∃ s' pid', IsOwner files proc c.protocol c.source c.destination s' pid') →
          Names files users proc (r.resolveConnection (.still files users) c).1 s pid) := by
  let settings' := { settings with pidCacheCapacity := capacity }
  have hnew : Remembers proc settings' (.new proc settings') := remembers_new _ _
  have hlimit' : (Process.pids files proc).length ≤ settings'.maxScanProcesses := hlimit
  cases hread : SocketTable.read files proc c.protocol with
  | error e =>
    rw [resolveConnection_of_unreadable users (by rw [h.remembers.proc_eq]; exact hread),
      resolveConnection_of_unreadable users (by rw [hnew.proc_eq]; exact hread)]
    refine ⟨rfl, ⟨nofun, ?_⟩, fun s pid howner => absurd howner (not_isOwner_of_unreadable hread),
      fun s pid howner => absurd howner (not_isOwner_of_unreadable hread)⟩
    rintro (⟨s, pid, howner⟩ | ⟨s, pid, howner⟩)
    · exact absurd howner (not_isOwner_of_unreadable hread)
    · exact absurd howner (not_isOwner_of_unreadable hread)
  | ok table =>
    rw [h.remembers.fst_resolveConnection hone hlimit h.knowsUsers hread,
      hnew.fst_resolveConnection hone hlimit' (knowsUsers_new users _ _) hread]
    exact ⟨rfl, isSome_plainConnection_iff hone hread,
      fun s pid howner => howner.names_source hone hread,
      fun s pid howner hnone => howner.names_destination hnone hone hread⟩

/-! ### A server that is restarted -/

/-- A connection to the server. -/
def toSshd : Connection :=
  .between .tcp ⟨.v4 ⟨127, 0, 0, 1⟩, 50000, 0⟩ sshdSocket.here

theorem heldByOne_sshdHost : HeldByOne (sshdHost 8) sshdProc := by
  intro inode pid hpid pid' hpid' _ _
  rw [pids_sshdHost (.inr rfl), List.mem_singleton] at hpid hpid'
  rw [hpid, hpid']

/-- The process that runs now owns the socket the connection comes to at its destination. -/
theorem isOwner_toSshd :
    IsOwner (sshdHost 8) sshdProc .tcp toSshd.destination toSshd.source sshdSocket 8 where
  found := ⟨_, read_sshdHost 8, by decide +kernel⟩
  inode_ne := by decide
  listed := by
    rw [pids_sshdHost (.inr rfl)]
    exact List.mem_singleton_self _
  holds := holds_sshdHost (.inr rfl)
  name := by
    rw [show (8 : Pid) = (8 : Nat) from rfl, name?_sshdHost (.inr rfl), Option.isSome_some]
  nonneg := by decide

/-- At its source the connection comes to no socket. -/
theorem not_isOwner_toSshd (s : Socket) (pid : Pid) :
    ¬ IsOwner (sshdHost 8) sshdProc .tcp toSshd.source toSshd.destination s pid := by
  intro howner
  obtain ⟨table, hread, hfind⟩ := howner.found
  obtain rfl := Except.ok.inj ((read_sshdHost 8).symm.trans hread)
  have hnone : (SocketTable.mk .tcp [sshdSocket]).find? toSshd.source (some toSshd.destination) =
      none := by decide +kernel
  rw [hnone] at hfind
  cases hfind

/-- The server was restarted as process 8 since a resolver remembered process 7: both it and a new
resolver that remembers one process at most name process 8. -/
theorem names_of_restarted :
    askedOfSshd.holders.get? sshdSocket.inode = some 7 ∧
      Reachable (fun host => host.users = fun _ => none) sshdProc {} askedOfSshd ∧
      HeldByOne (sshdHost 8) sshdProc ∧
      (Process.pids (sshdHost 8) sshdProc).length ≤ 32768 ∧
      (askedOfSshd.resolveConnection (.still (sshdHost 8) fun _ => none) toSshd).1 =
        ((Resolver.new sshdProc { pidCacheCapacity := 1 }).resolveConnection
          (.still (sshdHost 8) fun _ => none) toSshd).1 ∧
      Names (sshdHost 8) (fun _ => none) sshdProc
        (askedOfSshd.resolveConnection (.still (sshdHost 8) fun _ => none) toSshd).1
        sshdSocket 8 := by
  have hreachable := reachable_askedOfSshd (fun host => host.users = fun _ => none) rfl
  have hlength : (Process.pids (sshdHost 8) sshdProc).length ≤ 32768 := by
    rw [pids_sshdHost (.inr rfl)]
    decide
  obtain ⟨hfresh, -, -, hnames⟩ := resolveConnection_of_heldByOne hreachable heldByOne_sshdHost
    hlength 1 toSshd
  refine ⟨get?_askedOfSshd, hreachable, heldByOne_sshdHost, hlength, hfresh,
    hnames sshdSocket 8 isOwner_toSshd ?_⟩
  rintro ⟨s, pid, howner⟩
  exact not_isOwner_toSshd s pid howner

end FlowAudit.Resolver
