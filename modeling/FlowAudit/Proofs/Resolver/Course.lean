import FlowAudit.Proofs.Resolver.Cache

/-!
# The readings for a connection

While a connection is resolved its host may show other socket tables at each reading, or none. The
source is searched for in the readings from the first one on. If that gives no process, the
destination is searched for: first in the last tables that the source's search could read, then in
the readings after all those of that search (`Course`). The readings determine the course
(`Course.unique`).

With `N` retries no more than `2 * N + 1` readings are made, and what the files are like after the
last of them does not matter (`course_of_resolveConnection`); so many are made when no reading shows
an inode for either end (`readingsFor_of_isPending`).
-/

namespace FlowAudit.Resolver

/-! ### Connections -/

/-- How many readings of the socket tables are made to resolve a connection. -/
def readingsFor (r : Resolver) (host : HostHistory) (c : Connection) : Nat :=
  match r.readTable? host 0 c.protocol with
  | none => 1
  | some table =>
    let (outbound, t, r) := r.resolveEnd host ⟨table, 1⟩ c.source (some c.destination)
    if outbound.attribution.isSome then
      t.readings
    else
      (r.resolveEnd host t c.destination (some c.source)).2.1.readings

/-- How a connection is resolved, with the number of readings that are made. -/
inductive Course (r : Resolver) (host : HostHistory) (c : Connection) : Nat → Resolution → Prop
  /-- The tables cannot be read. -/
  | unreadable (h : r.readTable? host 0 c.protocol = none) : Course r host c 1 .unresolved
  /-- The search for the source gives a process. -/
  | source {k : Nat} {found : Option Socket}
      (search : Search (r.readTable? host · c.protocol) c.source (some c.destination)
        r.settings.socketRetryAttempts.toNat k found)
      (hnamed : (r.answer host (host.files k) (known? found)).attribution.isSome) :
      Course r host c (k + 1) (r.answer host (host.files k) (known? found))
  /-- It gives none, and the destination is searched for as well, first in the tables read last. -/
  | destination {k k' : Nat} {found found' : Option Socket} {last : SocketTable}
      (search : Search (r.readTable? host · c.protocol) c.source (some c.destination)
        r.settings.socketRetryAttempts.toNat k found)
      (hunnamed : ¬ (r.answer host (host.files k) (known? found)).attribution.isSome)
      (hlast : lastRead? (r.readTable? host · c.protocol) k = some last)
      (search' : Search ((Tables.mk last (k + 1)).onward (r.readTable? host · c.protocol))
        c.destination (some c.source) r.settings.socketRetryAttempts.toNat k' found') :
      Course r host c (k + k' + 1)
        (prefer (r.answer host (host.files k) (known? found))
          ((r.afterAnswer host (host.files k) (known? found)).answer host
            (host.files (k + k')) (known? found')))

section Connections

variable {r : Resolver} {host : HostHistory} {c : Connection} {n : Nat} {res : Resolution}

theorem readTable?_of_proc {r' : Resolver} (h : r'.proc = r.proc) :
    r'.readTable? = r.readTable? := by
  funext host reading protocol
  rw [readTable?, readTable?, h]

/-- The readings of both searches, and the one reading they begin with. -/
theorem Course.le (h : Course r host c n res) :
    n ≤ 2 * r.settings.socketRetryAttempts.toNat + 1 := by
  cases h with
  | unreadable => omega
  | source search =>
    have := search.le
    omega
  | destination search _ _ search' =>
    have := search.le
    have := search'.le
    omega

theorem course_readingsFor (r : Resolver) (host : HostHistory) (c : Connection) :
    Course r host c (r.readingsFor host c) (r.resolveConnection host c).1 := by
  unfold readingsFor resolveConnection
  cases hread : r.readTable? host 0 c.protocol with
  | none => exact .unreadable hread
  | some table =>
    have hprotocol := protocol_of_readTable? hread
    obtain ⟨k, found, last, hsearch, hlast, hsource⟩ :=
      resolveEnd_search r host hprotocol 0 c.source (some c.destination)
    rw [Nat.zero_add k] at hsource
    rw [Tables.onward_first (r.readTable? host · c.protocol) hread] at hsearch hlast
    obtain ⟨hproc, hsettings⟩ := setup_resolveEnd r host ⟨table, 1⟩ c.source (some c.destination)
    rw [hsource] at hproc hsettings
    -- The destination is searched for by the resolver that the source left.
    obtain ⟨j, -, hj, -⟩ := lastRead?_spec hlast
    obtain ⟨k', found', last', hsearch', -, hdestination⟩ :=
      resolveEnd_search (r.afterAnswer host (host.files k) (known? found)) host
        (protocol_of_readTable? hj) k c.destination (some c.source)
    rw [readTable?_of_proc hproc, hsettings] at hsearch'
    dsimp only
    rw [hsource, hdestination]
    dsimp only
    split
    · rename_i hnamed
      exact .source hsearch hnamed
    · rename_i hunnamed
      have hcourse := Course.destination hsearch hunnamed hlast hsearch'
      rw [prefer, if_neg hunnamed] at hcourse
      split <;> rename_i hinbound
      · rw [if_pos hinbound] at hcourse
        exact hcourse
      · rw [if_neg hinbound] at hcourse
        exact hcourse

/-- Without a first reading there is no search. -/
theorem Course.of_unreadable (h : Course r host c n res)
    (hread : r.readTable? host 0 c.protocol = none) : n = 1 ∧ res = .unresolved := by
  cases h with
  | unreadable => exact ⟨rfl, rfl⟩
  | source search hnamed =>
    obtain ⟨rfl, rfl⟩ := search.of_unreadable hread
    cases hnamed
  | destination search _ hlast =>
    obtain ⟨rfl, rfl⟩ := search.of_unreadable hread
    rw [lastRead?, hread] at hlast
    cases hlast

theorem Course.pos (h : Course r host c n res) : 0 < n := by
  cases h <;> exact Nat.succ_pos _

/-- The readings determine the course. -/
theorem Course.unique {n' : Nat} {res' : Resolution} (h : Course r host c n res)
    (h' : Course r host c n' res') : n = n' ∧ res = res' := by
  cases h with
  | unreadable hread =>
    obtain ⟨rfl, rfl⟩ := h'.of_unreadable hread
    exact ⟨rfl, rfl⟩
  | source search hnamed =>
    cases h' with
    | unreadable hread => exact (Course.source search hnamed).of_unreadable hread
    | source search' =>
      obtain ⟨rfl, rfl⟩ := search.unique search'
      exact ⟨rfl, rfl⟩
    | destination search' hunnamed =>
      obtain ⟨rfl, rfl⟩ := search.unique search'
      exact absurd hnamed hunnamed
  | destination search hunnamed hlast next =>
    cases h' with
    | unreadable hread => exact (Course.destination search hunnamed hlast next).of_unreadable hread
    | source search' hnamed =>
      obtain ⟨rfl, rfl⟩ := search.unique search'
      exact absurd hnamed hunnamed
    | destination search' _ hlast' next' =>
      obtain ⟨rfl, rfl⟩ := search.unique search'
      obtain rfl := Option.some.inj (hlast.symm.trans hlast')
      obtain ⟨rfl, rfl⟩ := next.unique next'
      exact ⟨rfl, rfl⟩

/-- If no reading shows an inode for the source, and none of those that follow shows one for the
destination, as many readings are made as there can be. -/
theorem readingsFor_of_isPending
    (hsource : ∀ k ≤ r.settings.socketRetryAttempts.toNat,
      IsPending c.source (some c.destination) (r.readTable? host k c.protocol))
    (hdestination : ∀ k ≤ r.settings.socketRetryAttempts.toNat,
      IsPending c.destination (some c.source)
        (r.readTable? host (r.settings.socketRetryAttempts.toNat + k) c.protocol)) :
    r.readingsFor host c = 2 * r.settings.socketRetryAttempts.toNat + 1 ∧
      (r.resolveConnection host c).1 = .unresolved := by
  obtain ⟨s, hzero, search⟩ : ∃ s : Socket, s.inode = 0 ∧
      Search (r.readTable? host · c.protocol) c.source (some c.destination)
        r.settings.socketRetryAttempts.toNat r.settings.socketRetryAttempts.toNat (some s) :=
    Search.of_isPending hsource
  obtain ⟨last, first, hlast, hfind, hinode⟩ := hdestination 0 (Nat.zero_le _)
  -- The second search begins with the tables of the last reading of the first.
  have hnext : ∀ j ≤ r.settings.socketRetryAttempts.toNat, IsPending c.destination (some c.source)
      ((Tables.mk last (r.settings.socketRetryAttempts.toNat + 1)).onward
        (r.readTable? host · c.protocol) j) := by
    rintro (_ | j) hj
    · exact ⟨last, first, rfl, hfind, hinode⟩
    · rw [Tables.onward, Nat.add_assoc, Nat.add_comm 1 j]
      exact hdestination (j + 1) hj
  obtain ⟨s', hzero', search'⟩ := Search.of_isPending hnext
  have hcourse := Course.destination search
    (by rw [known?_of_eq hzero]; exact Bool.false_ne_true) (lastRead?_of_eq_some hlast) search'
  rw [known?_of_eq hzero, known?_of_eq hzero'] at hcourse
  obtain ⟨hn, hres⟩ := (course_readingsFor r host c).unique hcourse
  exact ⟨by omega, hres.trans (prefer_unresolved _)⟩

end Connections

/-! ### Later readings -/

/-- Two histories of a host: with the same users, and with the same files until reading `n`. -/
structure AgreeFor (n : Nat) (host host' : HostHistory) : Prop where
  files : ∀ k < n, host'.files k = host.files k
  users : host'.users = host.users

section Agree

variable {r : Resolver} {host host' : HostHistory} {n : Nat}

theorem AgreeFor.readTable? (h : AgreeFor n host host') {reading : Nat} (hn : reading < n)
    (protocol : Protocol) :
    r.readTable? host' reading protocol = r.readTable? host reading protocol := by
  rw [Resolver.readTable?, h.files reading hn, Resolver.readTable?]

theorem AgreeFor.describe (h : AgreeFor n host host') : r.describe host' = r.describe host := by
  funext files pid uid
  unfold Resolver.describe
  rw [h.users]

theorem AgreeFor.findSocket (h : AgreeFor n host host') (endpoint : Endpoint)
    (peer : Option Endpoint) (retries : Nat) (t : Tables)
    (hn : (r.findSocket host endpoint peer retries t).2.readings ≤ n) :
    r.findSocket host' endpoint peer retries t = r.findSocket host endpoint peer retries t := by
  fun_induction r.findSocket host endpoint peer retries t with
  | case1 retries t hfind =>
    unfold Resolver.findSocket
    rw [hfind]
  | case2 retries t s hfind hinode =>
    unfold Resolver.findSocket
    rw [hfind]
    exact if_pos hinode
  | case3 t s hfind hinode =>
    unfold Resolver.findSocket
    rw [hfind]
    exact if_neg hinode
  | case4 t s hfind hinode retries hread =>
    unfold Resolver.findSocket
    rw [hfind]
    dsimp only
    rw [if_neg hinode, h.readTable? (by exact hn), hread]
  | case5 t s hfind hinode retries table hread ih =>
    obtain ⟨k, -, -, hreadings⟩ :=
      findSocket_spec r host endpoint peer retries ⟨table, t.readings + 1⟩
    -- The reading made here comes before all those that the rest of the search makes.
    have hlt : t.readings < n := by
      rw [hreadings] at hn
      dsimp only at hn
      omega
    rw [← ih hn]
    conv_lhs => unfold Resolver.findSocket
    rw [hfind]
    dsimp only
    rw [if_neg hinode, h.readTable? hlt, hread]

theorem AgreeFor.answer (h : AgreeFor n host host') (files : FileTree) (found : Option Socket) :
    r.answer host' files found = r.answer host files found := by
  cases found with
  | none => rfl
  | some s =>
    unfold Resolver.answer attribution?
    simp only [h.describe]

theorem AgreeFor.afterAnswer (h : AgreeFor n host host') (files : FileTree)
    (found : Option Socket) : r.afterAnswer host' files found = r.afterAnswer host files found := by
  cases found with
  | none => rfl
  | some s =>
    unfold Resolver.afterAnswer
    simp only [h.describe]

/-- One end of a connection does not depend on later readings than were made. -/
theorem AgreeFor.resolveEnd (h : AgreeFor n host host') {t : Tables} (ht : 0 < t.readings)
    (endpoint : Endpoint) (peer : Option Endpoint)
    (hn : (r.resolveEnd host t endpoint peer).2.1.readings ≤ n) :
    r.resolveEnd host' t endpoint peer = r.resolveEnd host t endpoint peer := by
  rw [resolveEnd_eq] at hn
  dsimp only at hn
  obtain ⟨k, -, -, hreadings⟩ :=
    findSocket_spec r host endpoint peer r.settings.socketRetryAttempts.toNat t
  have hfiles := h.files
    ((r.findSocket host endpoint peer r.settings.socketRetryAttempts.toNat t).2.readings - 1)
    (by omega)
  rw [resolveEnd_eq, resolveEnd_eq, h.findSocket endpoint peer _ t hn]
  dsimp only
  rw [hfiles, h.answer, h.afterAnswer]

/-- A connection is resolved in the same way on any two hosts that agree for as many readings as are
made. -/
theorem AgreeFor.resolveConnection {c : Connection}
    (h : AgreeFor (r.readingsFor host c) host host') :
    r.resolveConnection host' c = r.resolveConnection host c := by
  unfold Resolver.resolveConnection
  rw [h.readTable? (course_readingsFor r host c).pos]
  cases hread : r.readTable? host 0 c.protocol with
  | none => rfl
  | some table =>
    unfold readingsFor at h
    rw [hread] at h
    dsimp only at h ⊢
    split at h
    · rename_i hnamed
      rw [h.resolveEnd Nat.one_pos _ _ le_rfl, if_pos hnamed, if_pos hnamed]
    · rename_i hunnamed
      have hle := le_readings_resolveEnd
        (r.resolveEnd host ⟨table, 1⟩ c.source (some c.destination)).2.2 host
        (r.resolveEnd host ⟨table, 1⟩ c.source (some c.destination)).2.1 c.destination
        (some c.source)
      have hpos := le_readings_resolveEnd r host ⟨table, 1⟩ c.source (some c.destination)
      rw [h.resolveEnd Nat.one_pos _ _ hle, if_neg hunnamed, if_neg hunnamed,
        h.resolveEnd hpos _ _ le_rfl]

end Agree

/-! ### Any resolver, any host -/

/-- Whatever the socket tables of a host are like at each reading. A search stops with the first
reading that fails, that shows no socket for the endpoint or one with an inode, or with the last one
it may make; it answers what it finds there, and keeps the tables that were read last. One end of a
connection is unresolved just when nothing was found for it or a socket without an inode. A
connection is resolved by a search for its source and, if that gives no process, one for its
destination that begins with the tables the first one kept. With `N` retries there are no more than
`2 * N + 1` readings, and on a host that is the same for so many the connection is resolved in the
same way. -/
theorem course_of_resolveConnection (r : Resolver) (host : HostHistory) :
    (∀ endpoint peer retries t,
      ∃ k, Search (t.onward (r.readTable? host · t.table.protocol)) endpoint peer retries k
          (r.findSocket host endpoint peer retries t).1 ∧
        lastRead? (t.onward (r.readTable? host · t.table.protocol)) k =
          some (r.findSocket host endpoint peer retries t).2.table ∧
        (r.findSocket host endpoint peer retries t).2.readings = t.readings + k) ∧
    (∀ t endpoint peer,
      (r.resolveEnd host t endpoint peer).1 = .unresolved ↔
        ∀ s, (r.findSocket host endpoint peer r.settings.socketRetryAttempts.toNat t).1 = some s →
          s.inode = 0) ∧
    ∀ c,
      Course r host c (r.readingsFor host c) (r.resolveConnection host c).1 ∧
      r.readingsFor host c ≤ 2 * r.settings.socketRetryAttempts.toNat + 1 ∧
      ∀ host', AgreeFor (r.readingsFor host c) host host' →
        r.resolveConnection host' c = r.resolveConnection host c := by
  refine ⟨findSocket_spec r host, resolveEnd_eq_unresolved_iff r host, fun c => ?_⟩
  have hcourse := course_readingsFor r host c
  exact ⟨hcourse, hcourse.le, fun host' h => h.resolveConnection⟩

/-! ### A server that is just starting -/

/-- The socket tables with the server's socket and that of its client, both without inodes. -/
def waitingTable : String :=
  "sl local_address rem_address st tx_queue rx_queue tr tm->when retrnsmt uid timeout inode\n" ++
    "0: 0100007F:0016 00000000:0000 0A 00000000:00000000 00:00000000 00000000 1000 0 0 1\n" ++
    "1: 0100007F:C350 0100007F:0016 01 00000000:00000000 00:00000000 00000000 1000 0 0 1\n"

/-- The files of a host with these tables. -/
def waitingHost : FileTree :=
  .directory [("proc", .directory [
    ("net", .directory [("tcp", .file waitingTable.toUTF8), ("tcp6", .file "".toUTF8)])])]

/-- The client's socket. -/
def waitingClient : Socket where
  here := toSshd.source
  remote := sshdSocket.here
  state := 1
  uid := 1000
  inode := 0

/-- The server's socket. -/
def waitingServer : Socket :=
  { sshdSocket with inode := 0 }

/-- The files of a host whose socket tables cannot be read. -/
def brokenHost : FileTree :=
  .directory [("proc", .directory [("net", .directory [("tcp", .directory [])])])]

theorem read_brokenHost : SocketTable.read brokenHost sshdProc .tcp = .error .isADirectory := by
  have hlookup : brokenHost.lookup (sshdProc.join "net/tcp") true = .ok (.directory []) :=
    FileTree.lookup_of_at? ["proc", "net"] "tcp" (by decide) (by decide +kernel) (by decide) rfl
      (by simp)
  have htext : brokenHost.readText (sshdProc.join "net/tcp") = .error .isADirectory := by
    rw [FileTree.readText, FileTree.read, hlookup]
    rfl
  rw [SocketTable.read, Protocol.socketTables,
    SocketTable.readSockets_error "tcp" ["tcp6"] htext (by decide)]
  rfl

/-- A host on which the sockets have no inodes at the first reading, the second one fails, and the
server's socket has its inode from the third one on. -/
def startingHost : HostHistory where
  files
    | 0 => waitingHost
    | 1 => brokenHost
    | _ => sshdHost 7
  users _ := none

/-- What a resolver reads on this host. -/
theorem readTable?_startingHost :
    (Resolver.new sshdProc {}).readTable? startingHost 0 .tcp =
        some ⟨.tcp, [waitingServer, waitingClient]⟩ ∧
      (Resolver.new sshdProc {}).readTable? startingHost 1 .tcp = none ∧
      (Resolver.new sshdProc {}).readTable? startingHost 2 .tcp = some ⟨.tcp, [sshdSocket]⟩ := by
  have hwaiting : SocketTable.read waitingHost sshdProc .tcp =
      .ok ⟨.tcp, [waitingServer, waitingClient]⟩ :=
    read_of_at? rfl rfl (show Socket.parseTable waitingTable = _ by decide +kernel)
  refine ⟨?_, ?_, ?_⟩
  · exact congrArg Except.toOption hwaiting
  · exact congrArg Except.toOption read_brokenHost
  · exact congrArg Except.toOption (read_sshdHost 7)

/-- The client's socket has no inode at the first reading, and the second one fails. So the server's
socket is looked for in the tables of the first reading, where it has none either, and is found in
the third one; how the host goes on does not matter. -/
theorem course_of_starting :
    (Resolver.new sshdProc {}).readingsFor startingHost toSshd = 3 ∧
      ((Resolver.new sshdProc {}).resolveConnection startingHost toSshd).1.inode =
        some sshdSocket.inode ∧
      (Resolver.new sshdProc {}).resolveConnection
          { startingHost with files := fun k => if k < 3 then startingHost.files k else brokenHost }
          toSshd =
        (Resolver.new sshdProc {}).resolveConnection startingHost toSshd := by
  obtain ⟨hfirst, hsecond, hthird⟩ := readTable?_startingHost
  have hclient : (SocketTable.mk .tcp [waitingServer, waitingClient]).find? toSshd.source
      (some toSshd.destination) = some waitingClient := by decide +kernel
  have hserver : (SocketTable.mk .tcp [waitingServer, waitingClient]).find? toSshd.destination
      (some toSshd.source) = some waitingServer := by decide +kernel
  have hlater : (SocketTable.mk .tcp [sshdSocket]).find? toSshd.destination
      (some toSshd.source) = some sshdSocket := by decide +kernel
  have hsource : Search ((Resolver.new sshdProc {}).readTable? startingHost · toSshd.protocol)
      toSshd.source (some toSshd.destination) 3 1 none := by
    refine .again ⟨_, _, hfirst, hclient, rfl⟩ (.first ?_)
    rw [show toSshd.protocol = .tcp from rfl, hsecond]
    exact .unreadable
  have hlast : lastRead? ((Resolver.new sshdProc {}).readTable? startingHost · toSshd.protocol) 1 =
      some ⟨.tcp, [waitingServer, waitingClient]⟩ := by
    rw [lastRead?, lastRead?, show toSshd.protocol = .tcp from rfl, hsecond, hfirst]
    rfl
  have hdestination : Search
      ((Tables.mk ⟨.tcp, [waitingServer, waitingClient]⟩ 2).onward
        ((Resolver.new sshdProc {}).readTable? startingHost · toSshd.protocol))
      toSshd.destination (some toSshd.source) 3 1 (some sshdSocket) := by
    refine .again ⟨_, _, rfl, hserver, rfl⟩ (.first ?_)
    rw [Tables.onward, show toSshd.protocol = .tcp from rfl, hthird]
    exact .known hlater (by decide)
  obtain ⟨-, -, hall⟩ := course_of_resolveConnection (Resolver.new sshdProc {}) startingHost
  obtain ⟨hcourse, -, hagree⟩ := hall toSshd
  obtain ⟨hn, hresult⟩ := hcourse.unique (.destination hsource Bool.false_ne_true hlast hdestination)
  refine ⟨hn, ?_, hagree _ ⟨fun k hk => if_pos (hk.trans_eq hn), rfl⟩⟩
  have hanswer := hresult.trans (prefer_unresolved _)
  rw [known?_of_ne (by decide)] at hanswer
  rw [hanswer]
  rfl

end FlowAudit.Resolver
