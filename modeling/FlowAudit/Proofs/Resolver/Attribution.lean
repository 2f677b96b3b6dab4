import FlowAudit.Proofs.Resolver.Cache
import FlowAudit.Proofs.Sockets.Fit

/-!
# What an attribution rests on

Whatever a resolver went through before, an answer that names a process is supported by the host as
it is now (`attribution_of_reachable`): a socket in the socket tables that matches the endpoint, the
user of that socket, and a process that is described as its files say and has a descriptor for the
socket.
-/

namespace FlowAudit.Resolver

/-- What supports the attribution of the socket with the given inode, for an endpoint and its peer
if there is one. -/
structure Evidence (files : FileTree) (proc : Path) (protocol : Protocol) (endpoint : Endpoint)
    (peer : Option Endpoint) (inode : UInt64) (a : Attribution) : Prop where
  inode_ne : inode ≠ 0
  /-- The tables list the socket, as its owner's and as one that matches. -/
  socket : ∃ table s, SocketTable.read files proc protocol = .ok table ∧ s ∈ table.sockets ∧
    s.inode = inode ∧ s.uid = a.uid ∧ table.Matches endpoint peer s
  directory : files.isDirectory (Process.directory proc a.pid.toNat) = true
  /-- The process has a descriptor for the socket; if its target is written as the kernel does, it
  names just this socket. -/
  descriptor : ∃ name target, Process.IsDescriptor files proc a.pid.toNat inode name target ∧
    ∀ other, target = Process.socketLink other → target = Process.socketLink inode
  name : Process.name? files proc a.pid.toNat = some a.processName
  commandLine : a.commandLine = Process.arguments files proc a.pid.toNat

section Evidence

variable {proc : Path} {settings : ResolverSettings} {r : Resolver} {host : HostHistory}
  {files : FileTree} {users : UInt32 → Option String}

/-- The process behind a socket is listed, holds the socket, and is described as its files say. -/
theorem Remembers.exists_of_attribution? (hr : Remembers proc settings r) {s : Socket}
    {a : Attribution} (h : r.attribution? host files s = some a) :
    ∃ pid ∈ Process.pids files proc, Process.holds files proc pid s.inode = true ∧
      (a.pid.toNat : Pid) = pid ∧ a.uid = s.uid ∧
      Process.name? files proc pid = some a.processName ∧
      a.commandLine = Process.arguments files proc pid := by
  obtain ⟨pid, hholder, hdescribe⟩ := Option.bind_eq_some_iff.mp h
  obtain ⟨hmem, hholds⟩ := hr.fst_findHolder hholder
  rw [fst_describe, (hr.findHolder files s.inode).proc_eq] at hdescribe
  split at hdescribe
  · cases hdescribe
  rename_i hgo
  obtain ⟨name, hname, rfl⟩ := Option.map_eq_some_iff.mp hdescribe
  have hnonneg : 0 ≤ pid := by
    by_contra hneg
    simp [Int.not_le.mp hneg] at hgo
  exact ⟨pid, hmem, hholds,
    Process.toNat_ofNat_of_isPid (Process.isPid_of_mem_pids hmem) hnonneg, rfl, hname, rfl⟩

/-- An answer for a socket that was found names a process with evidence only. -/
theorem Remembers.evidence_of_answer (hr : Remembers proc settings r) {protocol : Protocol}
    {table : SocketTable} (hread : SocketTable.read files proc protocol = .ok table)
    {endpoint : Endpoint} {peer : Option Endpoint} {a : Attribution}
    (h : (r.answer host files (table.findKnown? endpoint peer)).attribution = some a) :
    ∃ inode, (r.answer host files (table.findKnown? endpoint peer)).inode = some inode ∧
      Evidence files proc protocol endpoint peer inode a := by
  cases hfind : table.findKnown? endpoint peer with
  | none => simp [hfind, answer, Resolution.unresolved] at h
  | some s =>
    rw [hfind] at h
    obtain ⟨hfound, hinode⟩ := Option.filter_eq_some_iff.mp hfind
    obtain ⟨hmem, hmatches⟩ := SocketTable.find?_spec hfound
    obtain ⟨pid, -, hholds, hpid, huid, hname, hcommandLine⟩ := hr.exists_of_attribution? h
    obtain ⟨hdirectory, name, target, hdescriptor⟩ := Process.holds_iff.mp hholds
    subst hpid
    refine ⟨s.inode, rfl, by simpa using hinode, ?_, hdirectory, ?_, hname, hcommandLine⟩
    · exact ⟨table, s, hread, hmem, rfl, huid.symm, hmatches⟩
    · exact ⟨name, target, hdescriptor, fun other => hdescriptor.target_eq⟩

/-- A process that does not hold the socket is not the one with the evidence. -/
theorem Evidence.pid_ne {protocol : Protocol} {endpoint : Endpoint} {peer : Option Endpoint}
    {inode : UInt64} {a : Attribution} (h : Evidence files proc protocol endpoint peer inode a)
    {pid : Pid} (hpid : Process.holds files proc pid inode = false) :
    (a.pid.toNat : Pid) ≠ pid := by
  rintro rfl
  obtain ⟨name, target, hdescriptor, -⟩ := h.descriptor
  rw [Process.holds_iff.mpr ⟨h.directory, name, target, hdescriptor⟩] at hpid
  cases hpid

end Evidence

/-! ### Whole calls -/

/-- Whatever a resolver was asked before, and of whatever hosts, on a host that stands still during
the call it names a process with evidence only: for an endpoint, evidence for that endpoint with any
peer; for a connection, evidence for one of its ends with the other as peer. A process that it
remembers and that does not hold the socket any more is not named. -/
theorem attribution_of_reachable {hosts : HostHistory → Prop} {proc : Path}
    {settings : ResolverSettings} {r : Resolver} (h : Reachable hosts proc settings r)
    (files : FileTree) (users : UInt32 → Option String) :
    (∀ protocol endpoint a,
      (r.resolve (.still files users) protocol endpoint).1.attribution = some a →
      ∃ inode, (r.resolve (.still files users) protocol endpoint).1.inode = some inode ∧
        Evidence files proc protocol endpoint none inode a ∧
        ∀ pid, r.holders.get? inode = some pid → Process.holds files proc pid inode = false →
          (a.pid.toNat : Pid) ≠ pid) ∧
    (∀ c a, (r.resolveConnection (.still files users) c).1.attribution = some a →
      ∃ inode, (r.resolveConnection (.still files users) c).1.inode = some inode ∧
        (Evidence files proc c.protocol c.source (some c.destination) inode a ∨
          Evidence files proc c.protocol c.destination (some c.source) inode a) ∧
        ∀ pid, r.holders.get? inode = some pid → Process.holds files proc pid inode = false →
          (a.pid.toNat : Pid) ≠ pid) := by
  have hr := h.remembers
  constructor
  · intro protocol endpoint a ha
    cases hread : SocketTable.read files proc protocol with
    | error e =>
      rw [resolve_of_unreadable users (by rw [hr.proc_eq]; exact hread)] at ha
      cases ha
    | ok table =>
      rw [(resolve_still users (by rw [hr.proc_eq]; exact hread) endpoint).1] at ha ⊢
      obtain ⟨inode, hinode, hevidence⟩ := hr.evidence_of_answer hread ha
      exact ⟨inode, hinode, hevidence, fun pid _ hpid => hevidence.pid_ne hpid⟩
  · intro c a ha
    cases hread : SocketTable.read files proc c.protocol with
    | error e =>
      rw [resolveConnection_of_unreadable users (by rw [hr.proc_eq]; exact hread)] at ha
      cases ha
    | ok table =>
      obtain ⟨r', hkept, hresult⟩ := resolveConnection_still users hr hread
      have hr' := hkept _ _ (isKept_remembers (fun _ => True) proc settings) trivial hr
      rw [hresult] at ha ⊢
      rcases prefer_eq
        (r.answer (.still files users) files (table.findKnown? c.source c.destination))
        (r'.answer (.still files users) files (table.findKnown? c.destination c.source))
        with heq | heq
      · rw [heq] at ha ⊢
        obtain ⟨inode, hinode, hevidence⟩ := hr.evidence_of_answer hread ha
        exact ⟨inode, hinode, .inl hevidence, fun pid _ hpid => hevidence.pid_ne hpid⟩
      · rw [heq] at ha ⊢
        obtain ⟨inode, hinode, hevidence⟩ := hr'.evidence_of_answer hread ha
        exact ⟨inode, hinode, .inr hevidence, fun pid _ hpid => hevidence.pid_ne hpid⟩

/-! ### A server that is restarted -/

/-- Process 7, which held the socket before the server was restarted, does not exist any more. -/
theorem holds_sshdHost_seven :
    Process.holds (sshdHost 8) sshdProc 7 sshdSocket.inode = false := by
  rw [Bool.eq_false_iff]
  intro hholds
  have hmem : (7 : Pid) ∈ Process.pids (sshdHost 8) sshdProc :=
    Process.mem_pids_of_holds ⟨by decide, by decide⟩ (by decide) hholds
  rw [pids_sshdHost (.inr rfl), List.mem_singleton] at hmem
  exact absurd hmem (by decide)

/-- The server as process 8. -/
def sshdAttribution : Attribution where
  pid := 8
  processName := "sshd"
  commandLine := Process.arguments (sshdHost 8) sshdProc 8
  uid := 1000
  username := none

theorem plainAnswer_sshdSocket :
    plainAnswer (sshdHost 8) (fun _ => none) sshdProc (some sshdSocket) =
      ⟨some sshdSocket.inode, some sshdAttribution⟩ := by
  have howner := isOwner_toSshd
  rw [plainAnswer, heldByOne_sshdHost.plainAttribution?_eq _ howner.listed howner.holds
    howner.nonneg (name?_sshdHost (.inr rfl))]
  rfl

/-- Asked for the socket or for a connection to it, a resolver that remembers process 7 names
process 8, and with evidence. -/
theorem evidence_of_restarted :
    Reachable (fun _ => True) sshdProc {} askedOfSshd ∧
      askedOfSshd.holders.get? sshdSocket.inode = some 7 ∧
      Process.holds (sshdHost 8) sshdProc 7 sshdSocket.inode = false ∧
      (askedOfSshd.resolve (.still (sshdHost 8) fun _ => none) .tcp sshdSocket.here).1 =
        ⟨some sshdSocket.inode, some sshdAttribution⟩ ∧
      Evidence (sshdHost 8) sshdProc .tcp sshdSocket.here none sshdSocket.inode sshdAttribution ∧
      (askedOfSshd.resolveConnection (.still (sshdHost 8) fun _ => none) toSshd).1 =
        ⟨some sshdSocket.inode, some sshdAttribution⟩ ∧
      (Evidence (sshdHost 8) sshdProc .tcp toSshd.source (some toSshd.destination)
          sshdSocket.inode sshdAttribution ∨
        Evidence (sshdHost 8) sshdProc .tcp toSshd.destination (some toSshd.source)
          sshdSocket.inode sshdAttribution) ∧
      (sshdAttribution.pid.toNat : Pid) ≠ 7 := by
  have hreachable := reachable_askedOfSshd (fun _ => True) trivial
  have hr := hreachable.remembers
  have hknows : KnowsUsers (fun _ => none) askedOfSshd :=
    (reachable_askedOfSshd (fun host => host.users = fun _ => none) rfl).knowsUsers
  have hlimit : (Process.pids (sshdHost 8) sshdProc).length ≤ 32768 := by
    rw [pids_sshdHost (.inr rfl)]
    decide
  have hsocket : (askedOfSshd.resolve (.still (sshdHost 8) fun _ => none) .tcp sshdSocket.here).1 =
      ⟨some sshdSocket.inode, some sshdAttribution⟩ := by
    have hknown : (SocketTable.mk .tcp [sshdSocket]).findKnown? sshdSocket.here none =
        some sshdSocket := by decide +kernel
    have hread : SocketTable.read (sshdHost 8) askedOfSshd.proc .tcp =
        .ok ⟨.tcp, [sshdSocket]⟩ := by
      rw [hr.proc_eq]
      exact read_sshdHost 8
    rw [(resolve_still (fun _ => none) hread sshdSocket.here).1, hknown,
      hr.answer_eq heldByOne_sshdHost hlimit hknows, plainAnswer_sshdSocket]
  have hconnection : (askedOfSshd.resolveConnection (.still (sshdHost 8) fun _ => none) toSshd).1 =
      ⟨some sshdSocket.inode, some sshdAttribution⟩ := by
    have hsource : (SocketTable.mk .tcp [sshdSocket]).findKnown? toSshd.source
        (some toSshd.destination) = none := by decide +kernel
    have hdestination : (SocketTable.mk .tcp [sshdSocket]).findKnown? toSshd.destination
        (some toSshd.source) = some sshdSocket := by decide +kernel
    rw [hr.fst_resolveConnection heldByOne_sshdHost hlimit hknows (c := toSshd) (read_sshdHost 8),
      plainConnection, hsource, hdestination, plainAnswer_sshdSocket]
    rfl
  obtain ⟨hresolve, hresolveConnection⟩ :=
    attribution_of_reachable hreachable (sshdHost 8) (fun _ => none)
  obtain ⟨inode, hinode, hevidence, hstale⟩ := hresolve .tcp sshdSocket.here sshdAttribution
    (by rw [hsocket])
  obtain ⟨inode', hinode', hevidence', -⟩ := hresolveConnection toSshd sshdAttribution
    (by rw [hconnection])
  rw [hsocket] at hinode
  rw [hconnection] at hinode'
  obtain rfl := Option.some.inj hinode
  obtain rfl := Option.some.inj hinode'
  exact ⟨hreachable, get?_askedOfSshd, holds_sshdHost_seven, hsocket, hevidence, hconnection,
    hevidence', hstale 7 get?_askedOfSshd holds_sshdHost_seven⟩

end FlowAudit.Resolver
