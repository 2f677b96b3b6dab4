import FlowAudit.Proofs.Resolver.Search

/-!
# Resolving on a host that stands still

While the files of a host do not change, reading the socket tables again gives the same tables, so
one end of a connection comes to what its one table says: the socket found in it if its inode is
known, and the process that holds the inode (`resolveEnd_still`).
-/

namespace FlowAudit

@[simp] theorem HostHistory.users_still (files : FileTree) (users : UInt32 → Option String) :
    (HostHistory.still files users).users = users :=
  rfl

theorem SocketTable.readSockets_cons {files : FileTree} {proc : Path} (name : String)
    (rest : List String) {text : String} {sockets : List Socket}
    (htext : files.readText (proc.join ("net/" ++ name)) = .ok text)
    (hrest : readSockets files proc rest = .ok sockets) :
    readSockets files proc (name :: rest) = .ok (Socket.parseTable text ++ sockets) := by
  unfold readSockets
  rw [htext]
  simp only [hrest, bind, Except.bind, pure, Except.pure]

theorem SocketTable.readSockets_error {files : FileTree} {proc : Path} (name : String)
    (rest : List String) {e : SystemError}
    (htext : files.readText (proc.join ("net/" ++ name)) = .error e) (he : e ≠ .notFound) :
    readSockets files proc (name :: rest) = .error e := by
  unfold readSockets
  rw [htext]
  cases e <;> first | rfl | exact absurd rfl he

/-- The socket found for an endpoint, if its inode is known. -/
def SocketTable.findKnown? (t : SocketTable) (endpoint : Endpoint) (peer : Option Endpoint) :
    Option Socket :=
  (t.find? endpoint peer).filter (·.inode ≠ 0)

namespace Resolver

/-! ### Processes -/

theorem holders_username (r : Resolver) (users : UInt32 → Option String) (uid : UInt32) :
    (r.username users uid).2.holders = r.holders := by
  unfold username
  split <;> rfl

theorem holders_describe (r : Resolver) (host : HostHistory) (files : FileTree) (pid : Pid)
    (uid : UInt32) : (r.describe host files pid uid).2.holders = r.holders := by
  unfold describe
  split
  · rfl
  · split
    · rfl
    · exact holders_username r host.users uid

theorem proc_username (r : Resolver) (users : UInt32 → Option String) (uid : UInt32) :
    (r.username users uid).2.proc = r.proc := by
  unfold username
  split <;> rfl

/-- A process is described by its number, its files and its user. -/
theorem fst_describe (r : Resolver) (host : HostHistory) (files : FileTree) (pid : Pid)
    (uid : UInt32) : (r.describe host files pid uid).1 =
      if pid < 0 || !files.isDirectory (Process.directory r.proc pid) then none
      else (Process.name? files r.proc pid).map fun name =>
        { pid := UInt32.ofNat pid.toNat, processName := name,
          commandLine := Process.arguments files r.proc pid, uid,
          username := (r.username host.users uid).1 } := by
  unfold describe
  split
  · rfl
  · cases Process.name? files r.proc pid with
    | none => rfl
    | some name =>
      dsimp only
      rw [proc_username, Option.map_some]

/-! ### One end -/

section Still

variable {r : Resolver} {files : FileTree} (users : UInt32 → Option String) {t : Tables}

theorem readTable?_still (r : Resolver) (files : FileTree) (users : UInt32 → Option String)
    (reading : Nat) (protocol : Protocol) :
    r.readTable? (.still files users) reading protocol =
      (SocketTable.read files r.proc protocol).toOption :=
  rfl

/-- Reading the tables again does not change what is found. -/
theorem findSocket_still (hread : SocketTable.read files r.proc t.table.protocol = .ok t.table)
    (endpoint : Endpoint) (peer : Option Endpoint) (retries : Nat) :
    ∃ readings, r.findSocket (.still files users) endpoint peer retries t =
      (t.table.find? endpoint peer, ⟨t.table, readings⟩) := by
  have hsame : ∀ k, t.onward (r.readTable? (.still files users) · t.table.protocol) k =
      some t.table := by
    rintro (_ | k)
    · rfl
    · rw [Tables.onward, readTable?_still, hread]
      rfl
  obtain ⟨k, hsearch, hlast, -⟩ :=
    findSocket_spec r (.still files users) endpoint peer retries t
  have hfound := hsearch.stop.found_eq
  obtain ⟨j, -, htable, -⟩ := lastRead?_spec hlast
  rw [hsame] at hfound htable
  refine ⟨(r.findSocket (.still files users) endpoint peer retries t).2.readings,
    Prod.ext hfound ?_⟩
  rw [Option.some.inj htable]

/-- The holders remembered after the answer for a socket with a known inode, if there is one. -/
def holdersAfter (r : Resolver) (files : FileTree) : Option Socket → Bounded UInt64 Pid
  | none => r.holders
  | some s => (r.findHolder files s.inode).2.holders

theorem holders_afterAnswer (r : Resolver) (host : HostHistory) (files : FileTree)
    (found : Option Socket) :
    (r.afterAnswer host files found).holders = r.holdersAfter files found := by
  cases found with
  | none => rfl
  | some s =>
    rw [afterAnswer, holdersAfter]
    cases r.findHolder files s.inode with
    | mk holder r' =>
      cases holder with
      | none => rfl
      | some pid => exact holders_describe r' host files pid s.uid

/-- One end of a connection comes to what the one table says, and leaves the table as it is. -/
theorem resolveEnd_still (hread : SocketTable.read files r.proc t.table.protocol = .ok t.table)
    (endpoint : Endpoint) (peer : Option Endpoint) :
    (r.resolveEnd (.still files users) t endpoint peer).2.1.table = t.table ∧
      (r.resolveEnd (.still files users) t endpoint peer).1 =
        r.answer (.still files users) files (t.table.findKnown? endpoint peer) ∧
      (r.resolveEnd (.still files users) t endpoint peer).2.2.holders =
        r.holdersAfter files (t.table.findKnown? endpoint peer) := by
  obtain ⟨readings, hfind⟩ := findSocket_still users hread endpoint peer
    r.settings.socketRetryAttempts.toNat
  rw [resolveEnd_eq, hfind]
  exact ⟨rfl, rfl, holders_afterAnswer r _ _ _⟩

end Still

/-! ### Endpoints and connections -/

section Calls

variable {r : Resolver} {files : FileTree} (users : UInt32 → Option String) {table : SocketTable}

theorem resolve_still {protocol : Protocol}
    (hread : SocketTable.read files r.proc protocol = .ok table) (endpoint : Endpoint) :
    (r.resolve (.still files users) protocol endpoint).1 =
        r.answer (.still files users) files (table.findKnown? endpoint none) ∧
      (r.resolve (.still files users) protocol endpoint).2.holders =
        r.holdersAfter files (table.findKnown? endpoint none) := by
  have hprotocol := SocketTable.protocol_of_read hread
  unfold resolve
  rw [readTable?_still, hread]
  refine (resolveEnd_still users (t := ⟨table, 1⟩) ?_ endpoint none).2
  rw [hprotocol]
  exact hread

/-- A connection comes to what its source and its destination come to. The destination is looked at
by a resolver that has kept whatever look-ups keep. -/
theorem resolveConnection_still {proc : Path} {settings : ResolverSettings}
    (hr : Remembers proc settings r) {c : Connection}
    (hread : SocketTable.read files proc c.protocol = .ok table) :
    ∃ r' : Resolver,
      (∀ hosts I, IsKept hosts I → hosts (.still files users) → I r → I r') ∧
      (r.resolveConnection (.still files users) c).1 =
        prefer (r.answer (.still files users) files (table.findKnown? c.source c.destination))
          (r'.answer (.still files users) files (table.findKnown? c.destination c.source)) := by
  let r' := (r.resolveEnd (.still files users) ⟨table, 1⟩ c.source c.destination).2.2
  have hkept : ∀ hosts I, IsKept hosts I → hosts (.still files users) → I r → I r' :=
    fun hosts I hI hhost hold => hI.resolveEnd hhost _ _ _ hold
  have hr' : Remembers proc settings r' :=
    hkept _ _ (isKept_remembers (fun _ => True) _ _) trivial hr
  have hprotocol := SocketTable.protocol_of_read hread
  refine ⟨r', hkept, ?_⟩
  obtain ⟨htable, houtbound, -⟩ := resolveEnd_still (r := r) users (t := ⟨table, 1⟩)
    (by rw [hr.proc_eq, hprotocol]; exact hread) c.source (some c.destination)
  have hinbound := (resolveEnd_still (r := r') users
    (t := (r.resolveEnd (.still files users) ⟨table, 1⟩ c.source c.destination).2.1)
    (by rw [htable, hr'.proc_eq, hprotocol]; exact hread) c.destination (some c.source)).2.1
  rw [htable] at hinbound
  rw [← houtbound, ← hinbound]
  unfold resolveConnection
  rw [readTable?_still, hr.proc_eq, hread]
  dsimp only [Except.toOption, prefer]
  split
  · rfl
  · split <;> rfl

/-- Nothing is resolved while the socket tables cannot be read. -/
theorem resolve_of_unreadable {protocol : Protocol} {e : SystemError}
    (hread : SocketTable.read files r.proc protocol = .error e) (endpoint : Endpoint) :
    (r.resolve (.still files users) protocol endpoint).1 = .unresolved := by
  unfold resolve
  rw [readTable?_still, hread]
  rfl

theorem resolveConnection_of_unreadable {c : Connection} {e : SystemError}
    (hread : SocketTable.read files r.proc c.protocol = .error e) :
    (r.resolveConnection (.still files users) c).1 = .unresolved := by
  unfold resolveConnection
  rw [readTable?_still, hread]
  rfl

end Calls

/-! ### A host with one process -/

/-- The socket of a server that waits for connections at 127.0.0.1:22. -/
def sshdSocket : Socket where
  here := ⟨.v4 ⟨127, 0, 0, 1⟩, 22, 0⟩
  remote := ⟨.v4 ⟨0, 0, 0, 0⟩, 0, 0⟩
  state := Socket.listening
  uid := 1000
  inode := 16

/-- The socket table with this socket alone. -/
def sshdTable : String :=
  "sl local_address rem_address st tx_queue rx_queue tr tm->when retrnsmt uid timeout inode\n" ++
    "0: 0100007F:0016 00000000:0000 0A 00000000:00000000 00:00000000 00000000 1000 0 16 1\n"

/-- The text of `stat` for the server. -/
def sshdStat (pid : Nat) : String :=
  toString pid ++ " (sshd) S 1 1 1 0 -1 0" ++
    " 0 0 0 0 0 0 0 0 20 0 1 0 9 0 0 0 0 0 0 0 0 0 0 0 0 0 0 0 17"

/-- The directory of the server. -/
def sshdDirectory (pid : Nat) : List (String × FileTree) :=
  [("fd", .directory [("3", .link (Process.socketLink 16))]),
    ("stat", .file (sshdStat pid).toUTF8)]

/-- The files of a host where the server runs as the process `pid`, and no other process does. -/
def sshdHost (pid : Nat) : FileTree :=
  .directory [("proc", .directory [
    ("net", .directory [("tcp", .file sshdTable.toUTF8), ("tcp6", .file "".toUTF8)]),
    (toString pid, .directory (sshdDirectory pid))])]

/-- Where such a host shows its processes. -/
def sshdProc : Path := ⟨"/proc"⟩

section Sshd

/-- The socket tables of a host are what the text of its table for IPv4 says, if that for IPv6 is
empty. -/
theorem read_of_at? {files : FileTree} {text : String} {sockets : List Socket}
    (htcp : files.at? ["proc", "net", "tcp"] = some (.file text.toUTF8))
    (htcp6 : files.at? ["proc", "net", "tcp6"] = some (.file "".toUTF8))
    (hsockets : Socket.parseTable text = sockets) :
    SocketTable.read files sshdProc .tcp = .ok ⟨.tcp, sockets⟩ := by
  have htext : ∀ text : String, String.fromUTF8? text.toUTF8 = some text := fun text =>
    dif_pos text.isValidUTF8
  have hread : files.readText (sshdProc.join "net/tcp") = .ok text :=
    FileTree.readText_of_lookup (FileTree.lookup_of_at? ["proc", "net"] "tcp" (by decide)
      (by decide +kernel) (by decide) htcp (by simp)) (htext text)
  have hread6 : files.readText (sshdProc.join "net/tcp6") = .ok "" :=
    FileTree.readText_of_lookup (FileTree.lookup_of_at? ["proc", "net"] "tcp6" (by decide)
      (by decide +kernel) (by decide) htcp6 (by simp)) (htext "")
  have hempty : Socket.parseTable "" = [] := by decide +kernel
  have hall := SocketTable.readSockets_cons "tcp" ["tcp6"] hread
    (SocketTable.readSockets_cons "tcp6" [] hread6 rfl)
  rw [hsockets, hempty, List.append_nil, List.append_nil] at hall
  unfold SocketTable.read
  rw [Protocol.socketTables, hall]
  rfl

theorem read_sshdHost (pid : Nat) :
    SocketTable.read (sshdHost pid) sshdProc .tcp = .ok ⟨.tcp, [sshdSocket]⟩ :=
  read_of_at? rfl rfl (show Socket.parseTable sshdTable = _ by decide +kernel)

variable {pid : Nat} (hpid : pid = 7 ∨ pid = 8)
include hpid

theorem pids_sshdHost : Process.pids (sshdHost pid) sshdProc = [(pid : Int)] := by
  obtain ⟨entries, hlookup, hentries⟩ : ∃ entries,
      (sshdHost pid).lookup sshdProc true = .ok (.directory entries) ∧
        entries.map Prod.fst = ["net", toString pid] :=
    ⟨_, FileTree.lookup_of_at? [] "proc" (by decide) (by decide +kernel) (by decide) rfl (by simp),
      rfl⟩
  rw [Process.pids_of_names (FileTree.names_of_lookup hlookup), hentries]
  rcases hpid with rfl | rfl
  · decide +kernel
  · decide +kernel

theorem lookup_sshdHost :
    (sshdHost pid).lookup (Process.directory sshdProc pid) true =
        .ok (.directory (sshdDirectory pid)) ∧
      (sshdHost pid).lookup ((Process.directory sshdProc pid).join "fd") true =
        .ok (.directory [("3", .link (Process.socketLink 16))]) ∧
      (sshdHost pid).lookup (((Process.directory sshdProc pid).join "fd").join "3") false =
        .ok (.link (Process.socketLink 16)) ∧
      (sshdHost pid).lookup ((Process.directory sshdProc pid).join "stat") true =
        .ok (.file (sshdStat pid).toUTF8) := by
  rcases hpid with rfl | rfl
  · exact ⟨FileTree.lookup_of_at? ["proc"] "7" (by decide) (by decide +kernel) (by decide) rfl
        (by simp),
      FileTree.lookup_of_at? ["proc", "7"] "fd" (by decide) (by decide +kernel) (by decide) rfl
        (by simp),
      FileTree.lookup_of_at? ["proc", "7", "fd"] "3" (by decide) (by decide +kernel) (by decide) rfl
        (by simp),
      FileTree.lookup_of_at? ["proc", "7"] "stat" (by decide) (by decide +kernel) (by decide) rfl
        (by simp)⟩
  · exact ⟨FileTree.lookup_of_at? ["proc"] "8" (by decide) (by decide +kernel) (by decide) rfl
        (by simp),
      FileTree.lookup_of_at? ["proc", "8"] "fd" (by decide) (by decide +kernel) (by decide) rfl
        (by simp),
      FileTree.lookup_of_at? ["proc", "8", "fd"] "3" (by decide) (by decide +kernel) (by decide) rfl
        (by simp),
      FileTree.lookup_of_at? ["proc", "8"] "stat" (by decide) (by decide +kernel) (by decide) rfl
        (by simp)⟩

theorem holds_sshdHost : Process.holds (sshdHost pid) sshdProc pid 16 = true := by
  obtain ⟨hdirectory, hfd, hlink, -⟩ := lookup_sshdHost hpid
  exact Process.holds_iff.mpr ⟨FileTree.isDirectory_of_lookup hdirectory, "3",
    Process.socketLink 16, ⟨_, FileTree.names_of_lookup hfd, List.mem_cons_self⟩, rfl,
    FileTree.linkTarget?_of_lookup hlink, Process.socketInode?_socketLink 16⟩

theorem name?_sshdHost : Process.name? (sshdHost pid) sshdProc pid = some "sshd" := by
  obtain ⟨-, -, -, hstat⟩ := lookup_sshdHost hpid
  unfold Process.name?
  rw [FileTree.read_of_lookup hstat]
  rcases hpid with rfl | rfl
  · decide +kernel
  · decide +kernel

end Sshd

/-- A resolver that was asked for the socket while the server ran as process 7. -/
def askedOfSshd : Resolver :=
  ((Resolver.new sshdProc {}).resolve (.still (sshdHost 7) fun _ => none) .tcp sshdSocket.here).2

theorem reachable_askedOfSshd (hosts : HostHistory → Prop)
    (h : hosts (.still (sshdHost 7) fun _ => none)) : Reachable hosts sshdProc {} askedOfSshd :=
  .resolve .new h .tcp sshdSocket.here

/-- It remembers process 7. -/
theorem get?_askedOfSshd : askedOfSshd.holders.get? sshdSocket.inode = some 7 := by
  have hknown : (SocketTable.mk .tcp [sshdSocket]).findKnown? sshdSocket.here none =
      some sshdSocket := by decide +kernel
  have hpids : Process.pids (sshdHost 7) (new sshdProc {}).proc = [7] := pids_sshdHost (.inl rfl)
  have hholds : Process.holds (sshdHost 7) (new sshdProc {}).proc 7 sshdSocket.inode = true :=
    holds_sshdHost (.inl rfl)
  have hscan : (new sshdProc {}).scan (sshdHost 7) sshdSocket.inode = some 7 := by
    rw [scan, Process.holder?, hpids, List.take_of_length_le (by decide), List.find?, hholds]
  have hholders := (resolve_still (r := new sshdProc {}) (fun _ => none) (read_sshdHost 7)
    sshdSocket.here).2
  rw [askedOfSshd, hholders, hknown, holdersAfter]
  obtain ⟨pid, hget, -⟩ | heq := findHolder_cases (new sshdProc {}) (sshdHost 7) sshdSocket.inode
  · simp [new] at hget
  · rw [heq, hscan]
    exact ((Bounded.valid_empty _).remove sshdSocket.inode).2.2.get?_insert_self _ _

end Resolver

end FlowAudit
