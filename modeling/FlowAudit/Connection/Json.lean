import FlowAudit.Connection
import FlowAudit.Json.Field
import FlowAudit.Net.Notation

/-!
# Connections and processes in JSON

How protocols, phases, connections and processes are written in JSON and read again. Writing gives
objects; reading also takes the values of the fields in order.
-/

namespace FlowAudit

/-! ### Protocols and phases -/

/-- A protocol is written by its name. -/
def Protocol.toJson (p : Protocol) : Json :=
  .string p.name

/-- Reads a protocol. -/
def Protocol.ofJson? (j : Json) : Option Protocol := do
  ofName? (← j.variant?)

theorem Protocol.ofJson?_toJson (p : Protocol) : ofJson? p.toJson = some p := by
  simp [ofJson?, toJson, Json.variant?, ofName?_name]

/-- The word for a phase in JSON. -/
def Phase.tag : Phase → String
  | .opened => "Open"
  | .closed => "Close"

/-- A phase is written by a word. -/
def Phase.toJson (p : Phase) : Json :=
  .string p.tag

/-- Reads a phase. -/
def Phase.ofJson? (j : Json) : Option Phase := do
  let name ← j.variant?
  if name = Phase.opened.tag then some .opened
  else if name = Phase.closed.tag then some .closed
  else none

theorem Phase.ofJson?_toJson (p : Phase) : ofJson? p.toJson = some p := by
  cases p <;> rfl

/-! ### Connections -/

namespace Connection

/-- The names of the fields, in their order. -/
def fieldNames : List String :=
  ["protocol", "source_address", "source_port", "destination_address", "destination_port"]

/-- The JSON object of a connection. -/
def toJson (c : Connection) : Json :=
  .object (fieldNames.zip [c.protocol.toJson,
    .string c.sourceAddress.render, .ofNat c.sourcePort.toNat,
    .string c.destinationAddress.render, .ofNat c.destinationPort.toNat])

/-- Reads an address. -/
def addressOfJson? (j : Json) : Option IpAddress := do
  IpAddress.parse? (← j.text?).toList

/-- Reads a port. -/
def portOfJson? (j : Json) : Option Port :=
  (j.unsigned? 16).map UInt16.ofNat

/-- Reads a connection. -/
def ofJson? (j : Json) : Option Connection := do
  match ← j.fields? fieldNames with
  | [some protocol, some source, some sourcePort, some destination, some destinationPort] =>
    return {
      protocol := ← Protocol.ofJson? protocol
      sourceAddress := ← addressOfJson? source
      sourcePort := ← portOfJson? sourcePort
      destinationAddress := ← addressOfJson? destination
      destinationPort := ← portOfJson? destinationPort }
  | _ => none

end Connection

/-! ### Processes -/

namespace Attribution

/-- The names of the fields, in their order. -/
def fieldNames : List String :=
  ["pid", "process_name", "command_line", "uid", "username"]

/-- The JSON object of a process. -/
def toJson (a : Attribution) : Json :=
  .object (fieldNames.zip [.ofNat a.pid.toNat, .string a.processName,
    .array (a.commandLine.map .string), .ofNat a.uid.toNat, .ofOption .string a.username])

/-- Reads a process; the name of the user may be absent. -/
def ofJson? (j : Json) : Option Attribution := do
  match ← j.fields? fieldNames with
  | [some pid, some processName, some commandLine, some uid, username] =>
    return {
      pid := UInt32.ofNat (← pid.unsigned? 32)
      processName := ← processName.text?
      commandLine := ← (← commandLine.items?).mapM Json.text?
      uid := UInt32.ofNat (← uid.unsigned? 32)
      username := ← Json.optional? Json.text? username }
  | _ => none

end Attribution

end FlowAudit
