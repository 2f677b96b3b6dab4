import FlowAudit.Agent
import FlowAudit.CommandLine.Arguments
import FlowAudit.CommandLine.Report
import FlowAudit.Snapshot

/-!
# Commands

All commands load the configuration first. `check-config` shows it, `snapshot` prints a record for
each connection that is open right now, and `run` runs the agent.
-/

namespace FlowAudit.CommandLine

/-- What a command meets on the host. -/
structure Host where
  files : FileTree
  /-- The identifier of an agent that is given none. -/
  identifier : Uuid
  /-- The number of the process that the command runs in. -/
  pid : UInt32
  /-- What the handling of a transition meets, by its number. -/
  around : Nat → Surroundings
  connect : Agent.Connect
  /-- How a sink reacts to what it is offered. -/
  reactions : Sink → List Delivery.Reaction
  /-- The turns that an agent takes until it is asked to stop. -/
  turns : Configuration → List Agent.Turn

/-- Why a command failed. -/
inductive Failure where
  /-- The configuration at a path cannot be used. -/
  | loading (path : Path) (error : ConfigurationError)
  | agent (error : AgentError)
  deriving DecidableEq, Repr, Inhabited

/-- What failed, and below it the causes. -/
def Failure.chain : Failure → List String
  | .loading path error =>
    ("cannot use configuration " ++ path.text) :: error.message :: error.causes
  | .agent error => error.message :: error.causes

/-- What a command leads to. -/
structure Outcome where
  /-- The lines printed, or why there are none. -/
  result : Except Failure (List String)
  /-- The agent that was run, as it was at its end. -/
  agent : Option Agent := none

/-- The configuration with another time between two readings of the table. -/
def overridden (c : Configuration) (pollInterval : Option UInt64) :
    Except AgentError Configuration :=
  match pollInterval with
  | none => .ok c
  | some interval =>
    ({ c with source.pollInterval := interval } : Configuration).checked.mapError .configuration

/-- Runs an agent. -/
def runAgent (c : Configuration) (pollInterval : Option UInt64) (h : Host) : Outcome :=
  let started : Except AgentError (Configuration × Agent) := do
    let c ← overridden c pollInterval
    return (c, ← Agent.start c h.identifier h.pid h.files h.connect h.reactions)
  match started with
  | .error error => { result := .error (.agent error) }
  | .ok (c, agent) =>
    let (report, agent) := agent.run (h.turns c)
    { result := (report.map fun _ => []).mapError .agent
      agent }

/-- Carries out a command with the configuration that was loaded from `path`. -/
def Command.execute (h : Host) (path : Path) (c : Configuration) : Command → Outcome
  | .checkConfig quiet =>
    { result := .ok
        (if quiet then [soundLine path] else settingsLines c (c.agent.identifier h.identifier)) }
  | .snapshot attributed =>
    let taken := Snapshot.take c (c.agent.identifier h.identifier) h.files h.around
    { result := (taken.map (recordLines attributed)).mapError fun error => .agent (.watch error) }
  | .run pollInterval => runAgent c pollInterval h

/-- Carries out a command with a configuration, if there is one. -/
def executeWith (h : Host) (a : Arguments) : Except ConfigurationError Configuration → Outcome
  | .error error => { result := .error (.loading a.configuration error) }
  | .ok c => a.command.execute h a.configuration c

/-- Loads the configuration and carries out a command. -/
def execute (h : Host) (a : Arguments) : Outcome :=
  executeWith h a (Configuration.load h.files a.configuration)

namespace Outcome

/-- The lines printed. -/
def lines (o : Outcome) : List String :=
  match o.result with
  | .ok lines => lines
  | .error _ => []

/-- The report about a command that failed. -/
def report (o : Outcome) : List String :=
  match o.result with
  | .ok _ => []
  | .error failure => failureLines failure.chain

/-- The code with which the program ends after a command. -/
def exitCode (o : Outcome) : UInt32 :=
  match o.result with
  | .ok _ => 0
  | .error _ => 1

end Outcome

end FlowAudit.CommandLine
