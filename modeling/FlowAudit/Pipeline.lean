import FlowAudit.Correlator
import FlowAudit.Filter
import FlowAudit.Record

/-!
# From transitions to records

A transition goes through the correlator and the filter and either becomes a record or is counted
for the reason it did not. The CLOSE of a connection whose OPEN became a record always becomes one;
the CLOSE of a connection whose OPEN was left out never does while the connection is remembered.
-/

namespace FlowAudit

/-- What became of the transitions. -/
structure PipelineCounters where
  /-- Records made. -/
  emitted : Nat := 0
  /-- Records of an OPEN without process. -/
  unattributed : Nat := 0
  duplicates : Nat := 0
  droppedNonProcess : Nat := 0
  droppedDns : Nat := 0
  droppedSelf : Nat := 0
  suppressedCloses : Nat := 0
  deriving DecidableEq, Repr, Inhabited

namespace PipelineCounters

/-- Counts an event that a rule left out. -/
def countDrop (c : PipelineCounters) : DropReason → PipelineCounters
  | .nonProcess => { c with droppedNonProcess := c.droppedNonProcess + 1 }
  | .dns => { c with droppedDns := c.droppedDns + 1 }
  | .selfTraffic => { c with droppedSelf := c.droppedSelf + 1 }

/-- Counts the record of an event. -/
def countEmitted (c : PipelineCounters) (e : Event) : PipelineCounters :=
  let unattributed := e.phase = .opened && e.resolution.attribution.isNone
  { c with
    emitted := c.emitted + 1
    unattributed := c.unattributed + (if unattributed then 1 else 0) }

end PipelineCounters

/-- The way of the transitions to the records. -/
structure Pipeline where
  agent : Uuid
  correlator : Correlator
  filter : Filter
  counters : PipelineCounters

namespace Pipeline

/-- A pipeline that has seen nothing yet. -/
def new (agent : Uuid) (settings : CorrelatorSettings) (filter : Filter) : Pipeline :=
  ⟨agent, .new settings, filter, {}⟩

/-- Makes the record of an event. -/
def emit (p : Pipeline) (e : Event) : Option Record × Pipeline :=
  (some (.ofEvent p.agent e), { p with counters := p.counters.countEmitted e })

/-- Leaves an event out; an OPEN is marked, so that its CLOSE is left out too. -/
def drop (p : Pipeline) (e : Event) (reason : DropReason) : Option Record × Pipeline :=
  let correlator := match e.phase with
    | .opened => p.correlator.markSuppressed e.hash
    | .closed => p.correlator
  (none, { p with correlator, counters := p.counters.countDrop reason })

/-- Takes in an observed transition and answers its record, if it becomes one. -/
def process (p : Pipeline) (o : Correlator.Observation) : Option Record × Pipeline :=
  let (correlated, correlator) := p.correlator.correlate o
  let p := { p with correlator }
  match correlated with
  | .duplicateOpen _ =>
    (none, { p with counters.duplicates := p.counters.duplicates + 1 })
  | .suppressedClose _ =>
    (none, { p with counters.suppressedCloses := p.counters.suppressedCloses + 1 })
  | .pairedClose e => p.emit e
  | .event e =>
    match p.filter.verdict e with
    | .keep => p.emit e
    | .drop reason => p.drop e reason

end Pipeline

end FlowAudit
