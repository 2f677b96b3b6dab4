import FlowAudit.Backoff
import FlowAudit.Host.Path
import FlowAudit.Net.Endpoint
import FlowAudit.Uuid

/-!
# Settings of the agent

`Configuration` holds everything that can be set. Every part has a default but the sinks: an agent
without a sink has nothing to do. Times are in milliseconds unless their name says otherwise.
-/

namespace FlowAudit

/-! ### Names and places -/

/-- The name of the program, and of an agent that is given none. -/
def programName : String := "conntrail"

/-- The version of the program. -/
def programVersion : String := "0.1.0"

/-- Where the configuration is looked for if no place is given. -/
def defaultConfigurationPath : Path := ⟨"/etc/conntrail/config.yaml"⟩

/-- Where the kernel shows its tables and processes. -/
def defaultProcRoot : Path := ⟨"/proc"⟩

/-- The socket of the local log daemon. -/
def defaultSyslogSocket : Path := ⟨"/dev/log"⟩

/-- The connection-tracking table, below the proc root. -/
def conntrackTableName : String := "net/nf_conntrack"

/-! ### The agent and what it leaves out -/

/-- Who sends the records. An agent without identifier is given a fresh one when it starts. -/
structure AgentIdentity where
  uuid : Option Uuid := none
  name : String := programName
  deriving DecidableEq, Repr, Inhabited

/-- The identifier of an agent, for which `fresh` was never used before. -/
def AgentIdentity.identifier (a : AgentIdentity) (fresh : Uuid) : Uuid :=
  a.uuid.getD fresh

/-- Which events are left out. -/
structure FilterRules where
  /-- Events without process whose destination is not a single host. -/
  nonProcess : Bool := false
  /-- Events of name lookups. -/
  dns : Bool := false
  /-- Events of the agent itself. -/
  selfTraffic : Bool := true
  deriving DecidableEq, Repr, Inhabited

/-! ### Sinks -/

/-- The kinds of sink. -/
inductive SinkKind where
  | syslogLocal
  | syslogTcp
  | syslogUdp
  | searchIndex
  | customEndpoint
  deriving DecidableEq, Repr, Inhabited

namespace SinkKind

/-- All kinds of sink. -/
def all : List SinkKind :=
  [.syslogLocal, .syslogTcp, .syslogUdp, .searchIndex, .customEndpoint]

/-- The name of a kind in a configuration. -/
def key : SinkKind → String
  | .syslogLocal => "syslog_local"
  | .syslogTcp => "syslog_tcp"
  | .syslogUdp => "syslog_udp"
  | .searchIndex => "search_index"
  | .customEndpoint => "custom_endpoint"

/-- The kind with the given name in a configuration. -/
def ofKey? (s : String) : Option SinkKind :=
  all.find? (·.key = s)

/-- The name of a kind in messages. -/
def name : SinkKind → String
  | .syslogLocal => "syslog-local"
  | .syslogTcp => "syslog-tcp"
  | .syslogUdp => "syslog-udp"
  | .searchIndex => "search-index"
  | .customEndpoint => "custom-endpoint"

end SinkKind

/-- Where records are sent. -/
inductive SinkTarget where
  | syslogLocal (path : Path)
  | syslogTcp (address : Endpoint)
  | syslogUdp (address : Endpoint)
  | searchIndex (url index : String)
  | customEndpoint (url : String)
  deriving DecidableEq, Repr, Inhabited

namespace SinkTarget

/-- The kind of a target. -/
def kind : SinkTarget → SinkKind
  | .syslogLocal _ => .syslogLocal
  | .syslogTcp _ => .syslogTcp
  | .syslogUdp _ => .syslogUdp
  | .searchIndex .. => .searchIndex
  | .customEndpoint _ => .customEndpoint

/-- What a target is at, as shown in its name. -/
def place : SinkTarget → String
  | .syslogLocal path => path.text
  | .syslogTcp address | .syslogUdp address => address.render
  | .searchIndex url index => url ++ "/" ++ index
  | .customEndpoint url => url

/-- The name of a target in messages and reports, such as `syslog-tcp(10.0.0.5:514)`. -/
def displayName (t : SinkTarget) : String :=
  t.kind.name ++ "(" ++ t.place ++ ")"

/-- Whether sending records there causes connections that the agent can observe. -/
def isNetworkBound (t : SinkTarget) : Bool :=
  t.kind ≠ .syslogLocal

/-- Whether two targets are the same; paths are compared by their components. -/
def same : SinkTarget → SinkTarget → Bool
  | .syslogLocal p, .syslogLocal q => p.same q
  | s, t => s = t

end SinkTarget

/-! ### Settings of the parts -/

/-- How the connection-tracking table is watched. -/
structure SourceSettings where
  procRoot : Path := defaultProcRoot
  pollInterval : UInt64 := 250
  /-- The number of failed readings in a row at which the table is given up. -/
  maxConsecutiveFailures : UInt32 := 20
  initialBackoff : UInt64 := 100
  maxBackoff : UInt64 := 5000
  deriving DecidableEq, Repr, Inhabited

namespace SourceSettings

/-- The delay after a number of failed readings in a row. -/
def backoff (s : SourceSettings) (failures : Nat) : UInt64 :=
  Backoff.delay s.initialBackoff s.maxBackoff (failures - 1)

end SourceSettings

/-- How the processes behind connections are looked for. -/
structure ResolverSettings where
  /-- Where the kernel shows its processes; the source's place if there is none. -/
  procRoot : Option Path := none
  /-- How often the socket tables are read again while a socket has no inode. -/
  socketRetryAttempts : UInt32 := 3
  socketRetryDelay : UInt64 := 2
  /-- The most processes that are looked into for the holder of a socket. -/
  maxScanProcesses : Nat := 32768
  /-- The most holders of sockets that are remembered. -/
  pidCacheCapacity : Nat := 4096
  deriving DecidableEq, Repr, Inhabited

/-- How an OPEN and a CLOSE are brought together. -/
structure CorrelatorSettings where
  /-- The most open connections that are remembered. -/
  capacity : Nat := 65536
  /-- The time in which a repeated OPEN counts as the same one. -/
  duplicateWindow : UInt64 := 2000
  deriving DecidableEq, Repr, Inhabited

/-- How records are sent to the sinks. -/
structure DeliverySettings where
  /-- The most records that wait for a sink. -/
  queueCapacity : Nat := 4096
  /-- The longest time that an attempt may take. -/
  deliveryTimeout : UInt64 := 5000
  /-- The most attempts after the first one. -/
  maxRetries : UInt32 := 5
  backoffBase : UInt64 := 200
  backoffMax : UInt64 := 30000
  /-- The time that sinks are given to take what waits for them when the agent stops. -/
  shutdownGrace : UInt64 := 3000
  /-- The least time between two warnings about a sink, in seconds. -/
  warnIntervalSeconds : UInt64 := 60
  deriving DecidableEq, Repr, Inhabited

namespace DeliverySettings

/-- The delay before a further attempt when `attempt` attempts came before the last one. -/
def backoff (s : DeliverySettings) (attempt : Nat) : UInt64 :=
  Backoff.delay s.backoffBase s.backoffMax attempt

/-- The least time between two warnings about a sink. -/
def warnInterval (s : DeliverySettings) : Nat :=
  s.warnIntervalSeconds.toNat * 1000

end DeliverySettings

/-! ### All settings -/

/-- All settings of an agent. -/
structure Configuration where
  agent : AgentIdentity := {}
  filters : FilterRules := {}
  sinks : List SinkTarget := []
  source : SourceSettings := {}
  resolver : ResolverSettings := {}
  correlator : CorrelatorSettings := {}
  dispatch : DeliverySettings := {}
  deriving DecidableEq, Repr, Inhabited

/-- Where the processes behind connections are looked for. -/
def Configuration.resolverRoot (c : Configuration) : Path :=
  c.resolver.procRoot.getD c.source.procRoot

end FlowAudit
