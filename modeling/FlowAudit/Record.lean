import FlowAudit.Connection.Event
import FlowAudit.Json
import FlowAudit.Net.Notation

/-!
# Records

A record is what the sinks are sent about an event: a JSON object that names the agent, the
connection and its lifetime, and for an OPEN whose process is known also the process. The phase of
the event is not part of the object; the sinks convey it in ways of their own.
-/

namespace FlowAudit

/-- The process that a record names. -/
structure Record.Owner where
  /-- The inode of the connection's socket, zero when it is not known. -/
  inode : UInt64
  process : Attribution
  deriving DecidableEq, Repr, Inhabited

/-- What the sinks are sent about an event. -/
structure Record where
  /-- The identifier that the records of one lifetime share. -/
  id : Uuid
  agent : Uuid
  hash : ConnectionHash
  timestamp : Timestamp
  connection : Connection
  phase : Phase
  /-- The process, for the OPEN of a connection whose process is known. -/
  owner : Option Record.Owner
  deriving DecidableEq, Repr, Inhabited

namespace Record

/-- The record that `agent` sends about an event. The record of a CLOSE names no process. -/
def ofEvent (agent : Uuid) (e : Event) : Record where
  id := e.id
  agent := agent
  hash := e.hash
  timestamp := e.timestamp
  connection := e.connection
  phase := e.phase
  owner := match e.phase with
    | .opened => e.resolution.attribution.map fun a => ⟨e.resolution.inode.getD 0, a⟩
    | .closed => none

/-- The members that name a process. -/
def Owner.members (o : Owner) : List (String × Json) :=
  (match o.process.username with
    | some name => [("username", .string name)]
    | none => []) ++
  [("uid", .ofNat o.process.uid.toNat),
    ("program_details", .object [
      ("inode", .ofNat o.inode.toNat),
      ("pid", .ofNat o.process.pid.toNat),
      ("process_name", .string o.process.processName),
      ("command_line", .array (o.process.commandLine.map .string))])]

/-- The members of the JSON object, in their order. -/
def members (r : Record) : List (String × Json) :=
  [("uuid", .string r.id.render),
    ("agent", .string r.agent.render),
    ("hash", .ofInt r.hash.signed),
    ("timestamp", .string r.timestamp.render),
    ("protocol", .string r.connection.protocol.name),
    ("source", .string r.connection.sourceAddress.render),
    ("destination", .string r.connection.destinationAddress.render),
    ("source_port", .ofNat r.connection.sourcePort.toNat),
    ("destination_port", .ofNat r.connection.destinationPort.toNat)] ++
  (match r.owner with
    | some o => o.members
    | none => [])

/-- The JSON object. -/
def toJson (r : Record) : Json :=
  .object r.members

/-- The text of the JSON object. -/
def render (r : Record) : String :=
  r.toJson.render

end Record

end FlowAudit
