import Std.Data.HashMap
import FlowAudit.Configuration
import FlowAudit.Connection.Event
import FlowAudit.Conntrack.Table
import FlowAudit.Host.SystemError

/-!
# Watching the connection-tracking table

`Watch` reads the table again and again and tells two readings apart: a connection that is listed
for the first time, or live again after it was over, has opened; one that is over or no longer
listed has closed. Of several rows for one connection the first counts. A connection first seen when
it is already over has opened and closed. The transitions of one reading are answered one by one,
all OPENs before all CLOSEs.

A reading that fails changes nothing but the number of failures in a row. The watch gives up when
that number reaches its limit, and it ends when it is asked to stop.

The world that a watch runs in is given as a list of rounds: what each turn of it meets.
-/

namespace FlowAudit.Conntrack

/-! ### Readings -/

/-- The connections of a reading of the table, each with whether it is live. -/
structure Sample where
  /-- The first row of each connection, in the order of the table. -/
  entries : List Entry
  /-- Whether a listed connection is live. -/
  live : Std.HashMap Connection Bool

namespace Sample

/-- The reading of an empty table. -/
def empty : Sample :=
  ⟨[], ∅⟩

/-- The first row of each connection that is not in `seen`, and all connections seen. -/
def firsts (seen : Std.HashMap Connection Bool) :
    List Entry → List Entry × Std.HashMap Connection Bool
  | [] => ([], seen)
  | e :: rest =>
    if seen.contains e.connection then
      firsts seen rest
    else
      let (entries, live) := firsts (seen.insert e.connection e.live) rest
      (e :: entries, live)

/-- The reading of a table with the given rows. -/
def ofEntries (entries : List Entry) : Sample :=
  let (entries, live) := firsts ∅ entries
  ⟨entries, live⟩

/-- Whether a row of a later reading shows that its connection opened. -/
def opens (previous : Sample) (e : Entry) : Bool :=
  match previous.live[e.connection]? with
  | none => true
  | some wasLive => !wasLive && e.live

/-- Whether a row of a later reading shows a connection that was over before it was seen. -/
def closesUnseen (previous : Sample) (e : Entry) : Bool :=
  previous.live[e.connection]?.isNone && !e.live

/-- Whether a connection that was live is no longer so in a later reading. -/
def closes (current : Sample) (e : Entry) : Bool :=
  e.live && current.live[e.connection]? != some true

/-- What happened between two readings: the OPENs, then the CLOSEs. -/
def transitions (previous current : Sample) : List Transition :=
  let opened := current.entries.filter previous.opens
  let unseen := current.entries.filter previous.closesUnseen
  let closed := previous.entries.filter current.closes
  opened.map (fun e => ⟨.opened, e.connection⟩) ++
    (unseen ++ closed).map fun e => ⟨.closed, e.connection⟩

end Sample

/-! ### Watching -/

/-- Why the table cannot be watched. -/
inductive WatchError where
  /-- The table cannot be opened at all. -/
  | unavailable (table : Path) (cause : SystemError)
  /-- The table could not be read so many times in a row. -/
  | sustained (table : Path) (failures : Nat) (cause : SystemError)
  deriving DecidableEq, Repr, Inhabited

namespace WatchError

/-- What made the last reading fail. -/
def cause : WatchError → SystemError
  | .unavailable _ cause => cause
  | .sustained _ _ cause => cause

/-- The text shown for an error. -/
def message : WatchError → String
  | .unavailable table cause =>
    "connection tracking is unavailable at " ++ table.text ++
      " (is nf_conntrack loaded and CAP_NET_ADMIN granted?): " ++ cause.message
  | .sustained table failures cause =>
    "conntrack table " ++ table.text ++ " failed " ++ toString failures ++
      " consecutive reads: " ++ cause.message

end WatchError

/-- Where the table is found. -/
def tablePath (procRoot : Path) : Path :=
  procRoot.join conntrackTableName

/-- A table that is watched. -/
structure Watch where
  settings : SourceSettings
  previous : Sample
  /-- Transitions that are not answered yet. -/
  pending : List Transition
  /-- How long to wait before the next reading; `none` before the first one. -/
  delay : Option UInt64
  /-- The number of failed readings since the last one that succeeded. -/
  failures : Nat
  /-- The number of rows so far that could not be read. -/
  malformed : Nat
  finished : Bool

/-- What a turn of a watch meets. -/
structure Round where
  /-- Whether the watch is asked to stop when the turn starts. -/
  stopBefore : Bool
  /-- Whether the watch is asked to stop while it waits for the next reading. -/
  stopWaiting : Bool
  /-- The text of the table, if it comes to a reading. -/
  reading : Except SystemError String

/-- What a watch answers. -/
inductive Answer where
  | transition (transition : Transition)
  | failed (error : WatchError)
  | ended
  deriving DecidableEq, Repr, Inhabited

namespace Watch

/-- A watch that has read nothing yet. -/
def new (settings : SourceSettings) : Watch :=
  ⟨settings, .empty, [], none, 0, 0, false⟩

/-- Where the table is found. -/
def path (w : Watch) : Path :=
  tablePath w.settings.procRoot

/-- Takes in the text of the table. -/
def take (w : Watch) (text : String) : Watch :=
  let table := Table.parse text
  let current := Sample.ofEntries table.entries
  { w with
    previous := current
    pending := w.pending ++ w.previous.transitions current
    malformed := w.malformed + table.malformed
    failures := 0
    delay := some w.settings.pollInterval }

/-- Takes in that a reading failed; answers an error when the limit is reached. -/
def fail (w : Watch) (cause : SystemError) : Option Answer × Watch :=
  let failures := w.failures + 1
  if failures ≥ w.settings.maxConsecutiveFailures.toNat then
    (some (.failed (.sustained w.path failures cause)),
      { w with failures, delay := none, finished := true })
  else
    (none, { w with failures, delay := some (w.settings.backoff failures) })

/-- One turn of a watch; no answer means that another turn follows. -/
def turn (w : Watch) (r : Round) : Option Answer × Watch :=
  if w.finished then
    (some .ended, w)
  else if r.stopBefore then
    (some .ended, { w with finished := true })
  else
    match w.pending with
    | t :: rest => (some (.transition t), { w with pending := rest })
    | [] =>
      if w.delay.isSome && r.stopWaiting then
        (some .ended, { w with delay := none, finished := true })
      else
        match r.reading with
        | .ok text => (none, w.take text)
        | .error cause => w.fail cause

/-- Turns until there is an answer; also answers the rounds that are left. No answer means that the
rounds do not suffice. -/
def next (w : Watch) : List Round → Option Answer × Watch × List Round
  | [] => (none, w, [])
  | r :: rest =>
    match w.turn r with
    | (some a, w) => (some a, w, rest)
    | (none, w) => w.next rest

end Watch

end FlowAudit.Conntrack
