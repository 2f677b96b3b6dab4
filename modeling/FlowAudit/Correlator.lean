import FlowAudit.Bounded
import FlowAudit.Configuration
import FlowAudit.Connection.Event

/-!
# Bringing OPEN and CLOSE together

The correlator remembers the connections that are open, by their hashes, and gives the CLOSE of a
connection the identifier of its OPEN. An OPEN that repeats a remembered one within the duplicate
window is no event. An OPEN that was left out is marked, and its CLOSE is left out as well.

The memory is bounded: when it is full the connection whose OPEN came first is forgotten, and its
CLOSE becomes an event with an identifier of its own.
-/

namespace FlowAudit

/-- What is remembered of an open connection. -/
structure OpenConnection where
  id : Uuid
  /-- When its OPEN was observed. -/
  firstSeen : Nat
  /-- Whether its OPEN was left out. -/
  suppressed : Bool
  deriving DecidableEq, Repr, Inhabited

/-- What a transition turns out to be. -/
inductive Correlated where
  /-- An event that stands for itself. -/
  | event (event : Event)
  /-- The CLOSE of a connection whose OPEN is remembered. -/
  | pairedClose (event : Event)
  /-- An OPEN that repeats a remembered one. -/
  | duplicateOpen (hash : ConnectionHash)
  /-- The CLOSE of a connection whose OPEN was left out. -/
  | suppressedClose (hash : ConnectionHash)
  deriving DecidableEq, Repr, Inhabited

/-- The connections that are open. -/
structure Correlator where
  opened : Bounded ConnectionHash OpenConnection
  /-- The time in which a repeated OPEN counts as the same one. -/
  duplicateWindow : Nat

namespace Correlator

/-- A correlator that remembers nothing yet. -/
def new (settings : CorrelatorSettings) : Correlator where
  opened := .empty settings.capacity
  duplicateWindow := settings.duplicateWindow.toNat

/-- The number of connections remembered as open. -/
def openConnections (c : Correlator) : Nat :=
  c.opened.size

/-- Whether an OPEN observed at `now` repeats the remembered one. The time between them counts as
zero if the clock went backwards. -/
def isDuplicate (c : Correlator) (h : ConnectionHash) (now : Nat) : Bool :=
  match c.opened.get? h with
  | some o => now - o.firstSeen < c.duplicateWindow
  | none => false

/-- What is known when a transition is observed. -/
structure Observation where
  transition : Transition
  /-- What is found about the process; for a CLOSE it is not looked at. -/
  resolution : Resolution
  /-- An identifier that was never used before. -/
  fresh : Uuid
  timestamp : Timestamp
  /-- The time on the monotonic clock in milliseconds. -/
  now : Nat
  deriving DecidableEq, Repr, Inhabited

/-- The event that an observation is, under the given identifier. -/
def Observation.event (o : Observation) (id : Uuid) : Event where
  connection := o.transition.connection
  phase := o.transition.phase
  hash := .of o.transition.connection
  id := id
  timestamp := o.timestamp
  observedAt := o.now
  resolution := match o.transition.phase with
    | .opened => o.resolution
    | .closed => .unresolved

/-- Finds out what an observed transition is. -/
def correlate (c : Correlator) (o : Observation) : Correlated × Correlator :=
  let h := ConnectionHash.of o.transition.connection
  match o.transition.phase with
  | .opened =>
    if c.isDuplicate h o.now then
      (.duplicateOpen h, c)
    else
      (.event (o.event o.fresh), { c with opened := (c.opened.insert h ⟨o.fresh, o.now, false⟩).2 })
  | .closed =>
    let (found, opened) := c.opened.remove h
    match found with
    | some s =>
      (if s.suppressed then .suppressedClose h else .pairedClose (o.event s.id), { c with opened })
    | none => (.event (o.event o.fresh), { c with opened })

/-- Notes that the OPEN of a connection was left out. -/
def markSuppressed (c : Correlator) (h : ConnectionHash) : Correlator :=
  { c with opened := c.opened.modify h fun s => { s with suppressed := true } }

end Correlator

end FlowAudit
