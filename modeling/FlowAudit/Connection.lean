import FlowAudit.Net.Endpoint

/-!
# Connections and what is observed of them

A connection is named by its protocol and its two endpoints, the source being the side that started
it. It is observed to open and to close; both are phases of the same connection. A process that
takes part in a connection is described by an `Attribution`.
-/

namespace FlowAudit

/-! ### Protocols -/

/-- A transport protocol whose connections are followed. -/
inductive Protocol where
  | tcp
  | udp
  deriving DecidableEq, Hashable, Repr, Inhabited

namespace Protocol

/-- The number of the protocol in internet headers. -/
def number : Protocol → UInt8
  | .tcp => 6
  | .udp => 17

/-- The protocol with the given number. -/
def ofNumber? (n : Nat) : Option Protocol :=
  if n = 6 then some .tcp else if n = 17 then some .udp else none

/-- The name of the protocol. -/
def name : Protocol → String
  | .tcp => "TCP"
  | .udp => "UDP"

/-- The protocol with the given name. -/
def ofName? (s : String) : Option Protocol :=
  if s = "TCP" then some .tcp else if s = "UDP" then some .udp else none

/-- The tables of sockets that the host keeps for the protocol, for IPv4 and for IPv6. -/
def socketTables : Protocol → List String
  | .tcp => ["tcp", "tcp6"]
  | .udp => ["udp", "udp6"]

theorem ofNumber?_number (p : Protocol) : ofNumber? p.number.toNat = some p := by
  cases p <;> rfl

theorem ofName?_name (p : Protocol) : ofName? p.name = some p := by
  cases p <;> rfl

end Protocol

/-! ### Phases -/

/-- What is observed of a connection: that it was opened or that it was closed. -/
inductive Phase where
  | opened
  | closed
  deriving DecidableEq, Hashable, Repr, Inhabited

/-- The word for the phase. -/
def Phase.name : Phase → String
  | .opened => "open"
  | .closed => "close"

/-! ### Connections -/

/-- A connection, named by its protocol and endpoints. Endpoints of connections have no scope. -/
structure Connection where
  protocol : Protocol
  sourceAddress : IpAddress
  sourcePort : Port
  destinationAddress : IpAddress
  destinationPort : Port
  deriving DecidableEq, Hashable, Repr, Inhabited

namespace Connection

/-- The connection between two endpoints, whose scopes are dropped. -/
def between (protocol : Protocol) (source destination : Endpoint) : Connection :=
  ⟨protocol, source.address, source.port, destination.address, destination.port⟩

/-- The endpoint of the side that started the connection. -/
def source (c : Connection) : Endpoint :=
  ⟨c.sourceAddress, c.sourcePort, 0⟩

/-- The endpoint of the other side. -/
def destination (c : Connection) : Endpoint :=
  ⟨c.destinationAddress, c.destinationPort, 0⟩

/-- The connection with both addresses in canonical form. -/
def canonical (c : Connection) : Connection :=
  { c with
    sourceAddress := c.sourceAddress.canonical
    destinationAddress := c.destinationAddress.canonical }

/-- The text form, such as `TCP 10.0.0.1:4000 -> [::1]:80`. -/
def render (c : Connection) : String :=
  c.protocol.name ++ " " ++ c.source.render ++ " -> " ++ c.destination.render

end Connection

/-! ### Processes -/

/-- A process that takes part in a connection. -/
structure Attribution where
  pid : UInt32
  processName : String
  /-- The arguments the process was started with, the first being its program. -/
  commandLine : List String
  uid : UInt32
  /-- The name of the user, if the host knows one. -/
  username : Option String
  deriving DecidableEq, Repr, Inhabited

end FlowAudit
