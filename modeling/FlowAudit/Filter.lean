import FlowAudit.Configuration
import FlowAudit.Connection.Event

/-!
# Leaving events out

Each rule by itself can leave an event out; no rule keeps an event that another one leaves out. An
event that several rules leave out is counted for the first of them, in the order of
`Filter.verdict`. The verdict depends on the connection and its process alone, not on the phase.
-/

namespace FlowAudit

/-- The rule that left an event out. -/
inductive DropReason where
  /-- An event without process whose destination is not a single host. -/
  | nonProcess
  /-- A name lookup. -/
  | dns
  /-- An event of the agent itself. -/
  | selfTraffic
  deriving DecidableEq, Repr, Inhabited

/-- The name of a rule. -/
def DropReason.name : DropReason → String
  | .nonProcess => "non-process"
  | .dns => "dns"
  | .selfTraffic => "self-traffic"

/-- What the filter decides about an event. -/
inductive Verdict where
  | keep
  | drop (reason : DropReason)
  deriving DecidableEq, Repr, Inhabited

/-- The rules, and what they need to know about the running agent. -/
structure Filter where
  rules : FilterRules
  agentPid : UInt32
  /-- Where the agent sends its records. -/
  sinkEndpoints : List Endpoint
  deriving DecidableEq, Repr, Inhabited

namespace Filter

/-- The ports of name lookups. -/
def dnsPorts : List Port := [53, 5353]

/-- Whether an event has no process and a destination that is not a single host. -/
def isNonProcess (e : Event) : Bool :=
  e.resolution.attribution.isNone && !e.connection.destinationAddress.isUnicast

/-- Whether either port of a connection is one of name lookups. -/
def isDns (c : Connection) : Bool :=
  dnsPorts.contains c.sourcePort || dnsPorts.contains c.destinationPort

/-- Whether an event is the agent's own: its process is the agent or, when no process is known, its
destination is where the agent sends records. -/
def isSelfTraffic (f : Filter) (e : Event) : Bool :=
  match e.resolution.attribution with
  | some a => a.pid = f.agentPid
  | none => f.sinkEndpoints.any e.connection.destination.samePlace

/-- What the filter decides about an event. -/
def verdict (f : Filter) (e : Event) : Verdict :=
  if f.rules.nonProcess && isNonProcess e then .drop .nonProcess
  else if f.rules.dns && isDns e.connection then .drop .dns
  else if f.rules.selfTraffic && f.isSelfTraffic e then .drop .selfTraffic
  else .keep

end Filter

end FlowAudit
