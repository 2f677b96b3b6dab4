import Std.Data.HashMap
import FlowAudit.Bounded
import FlowAudit.Configuration
import FlowAudit.Connection.Event
import FlowAudit.Host.Process
import FlowAudit.Sockets.Lookup

/-!
# Finding the process behind a connection

A connection is looked for from both its ends, its source first: a socket that fits the end gives an
inode, and the process that holds the inode is described. Processes come and go while they are
looked at, so finding nothing is an ordinary outcome and no error.

A socket that was just made has no inode yet; the socket tables are then read again, a limited number
of times. All look-ups for one connection go on with the tables read last.

The resolver remembers which process held an inode, and the names of users. A remembered process is
believed only if it holds the inode still, so what is remembered does not change an answer, but the
work it takes.
-/

namespace FlowAudit

/-- The host while a connection is resolved. -/
structure HostHistory where
  /-- The files from the reading of the socket tables with the given number on to the next one;
  readings are counted from zero. -/
  files : Nat → FileTree
  /-- The names of users. -/
  users : UInt32 → Option String

/-- A host whose files do not change. -/
def HostHistory.still (files : FileTree) (users : UInt32 → Option String) : HostHistory :=
  ⟨fun _ => files, users⟩

/-- What finds processes, and what it remembers. -/
structure Resolver where
  /-- Where the kernel shows its processes. -/
  proc : Path
  settings : ResolverSettings
  /-- The processes found to hold inodes. -/
  holders : Bounded UInt64 Pid
  /-- The names of users looked up so far. -/
  usernames : Std.HashMap UInt32 (Option String)

namespace Resolver

/-- A resolver that remembers nothing. -/
def new (proc : Path) (settings : ResolverSettings) : Resolver :=
  ⟨proc, settings, .empty settings.pidCacheCapacity, ∅⟩

/-! ### Sockets -/

/-- Socket tables that were read, and how many readings there were so far. -/
structure Tables where
  table : SocketTable
  readings : Nat
  deriving Repr, Inhabited

/-- Reads the socket tables at the given reading; `none` when that fails. -/
def readTable? (r : Resolver) (host : HostHistory) (reading : Nat) (protocol : Protocol) :
    Option SocketTable :=
  (SocketTable.read (host.files reading) r.proc protocol).toOption

/-- Looks for the socket of an endpoint. While the socket that fits best has no inode the tables are
read again, at most `retries` times. Answers the socket and the tables read last. -/
def findSocket (r : Resolver) (host : HostHistory) (endpoint : Endpoint) (peer : Option Endpoint) :
    (retries : Nat) → Tables → Option Socket × Tables
  | retries, t =>
    match t.table.find? endpoint peer with
    | none => (none, t)
    | some s =>
      if s.inode ≠ 0 then
        (some s, t)
      else
        match retries with
        | 0 => (some s, t)
        | retries + 1 =>
          match r.readTable? host t.readings t.table.protocol with
          | none => (none, { t with readings := t.readings + 1 })
          | some table => r.findSocket host endpoint peer retries ⟨table, t.readings + 1⟩

/-! ### Processes -/

/-- The process that holds an inode: the remembered one if it holds it still, else the first one
found, which is remembered. -/
def findHolder (r : Resolver) (files : FileTree) (inode : UInt64) : Option Pid × Resolver :=
  match (r.holders.get? inode).filter fun pid => Process.holds files r.proc pid inode with
  | some pid => (some pid, r)
  | none =>
    let r := { r with holders := (r.holders.remove inode).2 }
    match Process.holder? files r.proc r.settings.maxScanProcesses inode with
    | some pid => (some pid, { r with holders := (r.holders.insert inode pid).2 })
    | none => (none, r)

/-- The name of a user, which is looked up once. -/
def username (r : Resolver) (users : UInt32 → Option String) (uid : UInt32) :
    Option String × Resolver :=
  match r.usernames[uid]? with
  | some name => (name, r)
  | none => (users uid, { r with usernames := r.usernames.insert uid (users uid) })

/-- Describes a process; `none` when its name cannot be read or its number is negative. -/
def describe (r : Resolver) (host : HostHistory) (files : FileTree) (pid : Pid) (uid : UInt32) :
    Option Attribution × Resolver :=
  if pid < 0 || !files.isDirectory (Process.directory r.proc pid) then
    (none, r)
  else
    match Process.name? files r.proc pid with
    | none => (none, r)
    | some name =>
      let (username, r) := r.username host.users uid
      (some {
        pid := UInt32.ofNat pid.toNat
        processName := name
        commandLine := Process.arguments files r.proc pid
        uid
        username }, r)

/-! ### Connections -/

/-- Resolves one end of a connection. -/
def resolveEnd (r : Resolver) (host : HostHistory) (t : Tables) (endpoint : Endpoint)
    (peer : Option Endpoint) : Resolution × Tables × Resolver :=
  let (found, t) := r.findSocket host endpoint peer r.settings.socketRetryAttempts.toNat t
  match found with
  | none => (.unresolved, t, r)
  | some s =>
    if s.inode = 0 then
      (.unresolved, t, r)
    else
      let files := host.files (t.readings - 1)
      let (holder, r) := r.findHolder files s.inode
      match holder with
      | none => (⟨some s.inode, none⟩, t, r)
      | some pid =>
        let (attribution, r) := r.describe host files pid s.uid
        (⟨some s.inode, attribution⟩, t, r)

/-- Resolves the socket of an endpoint that belongs to this host. -/
def resolve (r : Resolver) (host : HostHistory) (protocol : Protocol) (endpoint : Endpoint) :
    Resolution × Resolver :=
  match r.readTable? host 0 protocol with
  | none => (.unresolved, r)
  | some table =>
    let (found, _, r) := r.resolveEnd host ⟨table, 1⟩ endpoint none
    (found, r)

/-- Resolves a connection: by its source, and if that gives no process by its destination. An inode
found for the source is kept if the destination gives no process either. -/
def resolveConnection (r : Resolver) (host : HostHistory) (c : Connection) :
    Resolution × Resolver :=
  match r.readTable? host 0 c.protocol with
  | none => (.unresolved, r)
  | some table =>
    let (outbound, t, r) := r.resolveEnd host ⟨table, 1⟩ c.source (some c.destination)
    if outbound.attribution.isSome then
      (outbound, r)
    else
      let (inbound, _, r) := r.resolveEnd host t c.destination (some c.source)
      if inbound.attribution.isSome || outbound.inode.isNone then (inbound, r) else (outbound, r)

end Resolver

end FlowAudit
