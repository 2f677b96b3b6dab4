import FlowAudit.Conntrack.Watch
import FlowAudit.Record
import FlowAudit.Surroundings

/-!
# What is open right now

A snapshot reads the connection-tracking table once and answers a record for each live connection in
it, in the order of the table. Nothing is left out by rules; a connection that is listed twice within
the duplicate window is answered once.
-/

namespace FlowAudit.Snapshot

/-- The records of connections, of which the first is the one with number `n`. -/
def recordsFrom (agent : Uuid) (around : Nat → Surroundings) (n : Nat) (r : Resolver)
    (c : Correlator) : List Connection → List Record
  | [] => []
  | connection :: rest =>
    let (observation, r) := (around n).observe r ⟨.opened, connection⟩
    let (correlated, c) := c.correlate observation
    let records := recordsFrom agent around (n + 1) r c rest
    match correlated with
    | .event e => .ofEvent agent e :: records
    | _ => records

/-- The records of the live connections in the text of a table. -/
def records (c : Configuration) (agent : Uuid) (around : Nat → Surroundings) (text : String) :
    List Record :=
  let live := (Conntrack.Table.parse text).entries.filter (·.live)
  recordsFrom agent around 0 (.new c.resolverRoot c.resolver) (.new c.correlator)
    (live.map (·.connection))

/-- Reads the table and answers the records of its live connections. -/
def take (c : Configuration) (agent : Uuid) (files : FileTree) (around : Nat → Surroundings) :
    Except Conntrack.WatchError (List Record) :=
  let table := Conntrack.tablePath c.source.procRoot
  match files.readText table with
  | .ok text => .ok (records c agent around text)
  | .error cause => .error (.unavailable table cause)

end FlowAudit.Snapshot
