import FlowAudit.Configuration.Load
import FlowAudit.Conntrack.Watch
import FlowAudit.Delivery.Dispatcher
import FlowAudit.Pipeline
import FlowAudit.Sink
import FlowAudit.Surroundings

/-!
# The agent

An agent watches the connection-tracking table and sends a record of what it sees to its sinks. It
starts when its configuration makes sense, the table can be opened and at least one sink can be
used; sinks that cannot be used are left out. It goes on until it is asked to stop or the table
cannot be read any more, and its sinks are then given the grace period in either case.

Traffic to all configured sinks counts as the agent's own, also to those that cannot be used.
-/

namespace FlowAudit

/-- Why an agent does not start, or does not go on. -/
inductive AgentError where
  | configuration (error : ConfigurationError)
  | watch (error : Conntrack.WatchError)
  /-- None of the configured sinks can be used. -/
  | noUsableSink (configured : Nat)
  /-- Whoever watched the table broke down. -/
  | brokenOff (cause : String)
  deriving DecidableEq, Repr, Inhabited

namespace AgentError

/-- The text shown for an error. -/
def message : AgentError → String
  | .configuration error => error.message
  | .watch error => error.message
  | .noUsableSink configured =>
    "no usable sink: all " ++ toString configured ++ " configured sinks failed to start"
  | .brokenOff cause => "ingestion thread failed: " ++ cause

/-- What is behind an error, as far as it is an error by itself. -/
def causes : AgentError → List String
  | .configuration error => error.causes
  | .watch error => [error.cause.message]
  | .noUsableSink _ | .brokenOff _ => []

end AgentError

/-- What became of a run. -/
structure AgentReport where
  counters : PipelineCounters
  sinks : List Delivery.SinkReport
  deriving DecidableEq, Repr, Inhabited

/-- An agent at work. -/
structure Agent where
  watch : Conntrack.Watch
  resolver : Resolver
  pipeline : Pipeline
  dispatcher : Delivery.Dispatcher Record

namespace Agent

open Delivery (Reaction)

/-! ### Starting -/

/-- Whether an agent can start at all. -/
def check (c : Configuration) (files : FileTree) : Except AgentError Unit := do
  let _ ← c.checked.mapError .configuration
  let table := Conntrack.tablePath c.source.procRoot
  match files.checkOpen table with
  | .ok () => .ok ()
  | .error cause => .error (.watch (.unavailable table cause))

/-- How a target becomes a sink. -/
abbrev Connect := SinkTarget → Except SinkError Sink

/-- The sinks that can be used of those configured. -/
def connectSinks (c : Configuration) (connect : Connect) : Except AgentError (List Sink) :=
  let usable := c.sinks.filterMap fun target => (connect target).toOption
  if usable.isEmpty then .error (.noUsableSink c.sinks.length) else .ok usable

/-- Where the agent itself causes traffic. -/
def selfEndpoints (c : Configuration) : List Endpoint :=
  (c.sinks.filter (·.isNetworkBound)).flatMap Sink.remoteEndpoints

/-- An agent that has seen nothing yet, with sinks of the given names and reactions. It runs in the
process `pid`. -/
def new (c : Configuration) (fresh : Uuid) (pid : UInt32) (sinks : List (String × List Reaction)) :
    Agent where
  watch := .new c.source
  resolver := .new c.resolverRoot c.resolver
  pipeline :=
    .new (c.agent.identifier fresh) c.correlator ⟨c.filters, pid, selfEndpoints c⟩
  dispatcher := .new c.dispatch sinks

/-- Starts an agent with other sinks than those configured. -/
def startWith (c : Configuration) (fresh : Uuid) (pid : UInt32) (files : FileTree)
    (sinks : List (String × List Reaction)) : Except AgentError Agent := do
  check c files
  return new c fresh pid sinks

/-- Starts an agent. `reactions` tells how a sink will react to what it is offered. -/
def start (c : Configuration) (fresh : Uuid) (pid : UInt32) (files : FileTree) (connect : Connect)
    (reactions : Sink → List Reaction) : Except AgentError Agent := do
  check c files
  let sinks ← connectSinks c connect
  return new c fresh pid (sinks.map fun s => (s.name, reactions s))

/-! ### Working -/

/-- What an agent meets in a turn. -/
structure Turn where
  round : Conntrack.Round
  around : Surroundings
  /-- How long the sinks work before the next turn, in milliseconds. -/
  elapsed : Nat

/-- Handles a transition. -/
def handle (a : Agent) (around : Surroundings) (t : Transition) : Agent :=
  let (observation, resolver) := around.observe a.resolver t
  let (record, pipeline) := a.pipeline.process observation
  let dispatcher := match record with
    | some r => a.dispatcher.dispatch r
    | none => a.dispatcher
  { a with resolver, pipeline, dispatcher }

/-- What a turn of an agent leads to. -/
inductive Progress where
  | continues
  /-- The agent was asked to stop. -/
  | stops
  | fails (error : Conntrack.WatchError)
  deriving DecidableEq, Repr, Inhabited

/-- One turn of an agent. -/
def turn (a : Agent) (t : Turn) : Progress × Agent :=
  let (answer, watch) := a.watch.turn t.round
  let a := { a with watch }
  match answer with
  | some .ended => (.stops, a)
  | some (.failed error) => (.fails error, a)
  | some (.transition transition) =>
    let a := a.handle t.around transition
    (.continues, { a with dispatcher := a.dispatcher.wait t.elapsed })
  | none => (.continues, { a with dispatcher := a.dispatcher.wait t.elapsed })

/-- The agent with its sinks stopped. -/
def shutdown (a : Agent) : Agent :=
  { a with dispatcher := a.dispatcher.shutdown }

/-- What became of a run after which the sinks were stopped. -/
def report (a : Agent) : AgentReport :=
  ⟨a.pipeline.counters, a.dispatcher.reports⟩

/-- Takes turns until the agent stops; it is asked to after the last of them. -/
def run (a : Agent) : List Turn → Except AgentError AgentReport × Agent
  | [] =>
    let a := a.shutdown
    (.ok a.report, a)
  | t :: rest =>
    match a.turn t with
    | (.continues, a) => a.run rest
    | (.stops, a) =>
      let a := a.shutdown
      (.ok a.report, a)
    | (.fails error, a) => (.error (.watch error), a.shutdown)

end Agent

end FlowAudit
