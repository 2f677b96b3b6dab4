import FlowAudit.Host.LocalSockets
import FlowAudit.Record
import FlowAudit.Sink.Http
import FlowAudit.Sink.Syslog

/-!
# Sinks

A sink is a target that records can be delivered to. A local socket has to be there from the start,
and the URL of a service has to make sense. The host must have a socket from which datagrams can be
sent to an address, and a client for a service. Whether the other side can be reached is seen when a
record is delivered.

A sink that is connected to a local socket stays so until a record cannot be sent there; it then
looks for the socket anew when the next record is delivered. A record that is too large for its
transport is given up, and does not count as a failure of the connection.
-/

namespace FlowAudit

/-- How a sink sends records. -/
inductive Transport where
  /-- Datagrams to a local socket, by its number if the sink is connected to one. -/
  | localSocket (path : Path) (connected : Option Nat)
  | stream (address : Endpoint)
  | datagrams (address : Endpoint)
  | searchIndex (document : Url)
  | customEndpoint (opened closed : Url)
  deriving DecidableEq, Repr, Inhabited

/-- A target that records can be delivered to. -/
structure Sink where
  name : String
  transport : Transport
  deriving DecidableEq, Repr, Inhabited

/-- Why a target cannot be used. -/
inductive SinkError where
  | unreachableSocket (path : Path) (cause : SystemError)
  /-- There is no socket from which datagrams can be sent to the address of the sink. -/
  | unpreparedSocket (sink : String) (cause : SystemError)
  | invalidUrl (error : Sink.InvalidUrl)
  /-- There is no client for web services. -/
  | noClient (cause : String)
  deriving DecidableEq, Repr, Inhabited

/-- The text shown for an error. -/
def SinkError.message : SinkError → String
  | .unreachableSocket path cause =>
    "cannot reach syslog socket " ++ path.text ++ ": " ++ cause.message
  | .unpreparedSocket sink cause =>
    "cannot prepare socket for " ++ sink ++ ": " ++ cause.message
  | .invalidUrl error => "invalid url " ++ error.url ++ ": " ++ error.reason.message
  | .noClient cause => "failed to build http client: " ++ cause

/-- What the network does with what is sent. -/
structure Network where
  /-- The status of the answer to a text that is posted to a URL; `none` when there is no answer. -/
  post : Url → String → Option Nat
  /-- Whether a stream to an address takes a text. -/
  stream : Endpoint → String → Bool
  /-- Whether a datagram can be sent to an address. -/
  datagram : Endpoint → String → Bool

/-- A network on which nothing can be reached. -/
def Network.silent : Network :=
  ⟨fun _ _ => none, fun _ _ => false, fun _ _ => false⟩

namespace Sink

open Delivery (DeliveryOutcome)

/-- What a sink meets when it delivers a message. -/
structure Surroundings where
  sockets : LocalSockets
  network : Network
  /-- The time as lines show it. -/
  time : String
  /-- The name of the host. -/
  host : String
  /-- The number of the process that the agent runs in. -/
  pid : Nat

/-! ### Connecting -/

/-- What the host has for a sink that is made. -/
structure Resources where
  sockets : LocalSockets
  /-- Whether datagrams can be sent to an address: a socket can be bound, and connected to it. -/
  datagramSocket : Endpoint → Except SystemError Unit
  /-- Whether there is a client for web services. -/
  client : Except String Unit

/-- A host that may lack nothing but local sockets. -/
def Resources.ample (sockets : LocalSockets) : Resources :=
  ⟨sockets, fun _ => .ok (), .ok ()⟩

/-- How records are sent to a target. -/
def Transport.ofTarget (r : Resources) (target : SinkTarget) : Except SinkError Transport :=
  match target with
  | .syslogLocal path =>
    match r.sockets.find path with
    | .ok number => .ok (.localSocket path (some number))
    | .error cause => .error (.unreachableSocket path cause)
  | .syslogTcp address => .ok (.stream address)
  | .syslogUdp address => do
    (r.datagramSocket address).mapError (.unpreparedSocket target.displayName)
    return .datagrams address
  | .searchIndex url index => do
    let document ← (documentUrl url index).mapError .invalidUrl
    r.client.mapError .noClient
    return .searchIndex document
  | .customEndpoint url => do
    let base ← (parseBase url).mapError .invalidUrl
    r.client.mapError .noClient
    let opened ← (connectionUrl base .opened).mapError .invalidUrl
    let closed ← (connectionUrl base .closed).mapError .invalidUrl
    return .customEndpoint opened closed

/-- The sink of a target. -/
def connect (r : Resources) (target : SinkTarget) : Except SinkError Sink :=
  (Transport.ofTarget r target).map fun transport => ⟨target.displayName, transport⟩

/-! ### Delivering -/

/-- What is delivered of a record: its phase and its text. -/
structure Message where
  phase : Phase
  body : String
  deriving DecidableEq, Repr, Inhabited

/-- The message of a record. -/
def Message.ofRecord (r : Record) : Message :=
  ⟨r.phase, r.render⟩

/-- The line of a message. -/
def Message.line (m : Message) (around : Surroundings) : String :=
  syslogLine around.time around.host around.pid m.phase m.body

/-- The one of two URLs that records of a phase are posted to. -/
def route (opened closed : Url) : Phase → Url
  | .opened => opened
  | .closed => closed

/-- The URL that a sink posts records of a phase to, if it is a service. -/
def postUrl? (s : Sink) (phase : Phase) : Option Url :=
  match s.transport with
  | .searchIndex document => some document
  | .customEndpoint opened closed => some (route opened closed phase)
  | _ => none

/-- What the answer to a posted message means; no answer may be a failure that passes. -/
def classifyAnswer (accepted : Nat → Bool) : Option Nat → DeliveryOutcome
  | some status => classifyStatus accepted status
  | none => .retryLater

/-- What becomes of a line that is sent to the local socket at `path`, and the socket that the sink
is connected to afterwards. -/
def sendLocal (sockets : LocalSockets) (path : Path) (connected : Option Nat) (line : String) :
    DeliveryOutcome × Option Nat :=
  match connected.or (sockets.find path).toOption with
  | none => (.retryLater, none)
  | some number =>
    if line.utf8ByteSize > sockets.maxDatagram then (.dropPermanent, some number)
    else if number ∈ sockets.listening then (.delivered, some number)
    else (.retryLater, none)

/-- Delivers a message. -/
def deliver (s : Sink) (around : Surroundings) (m : Message) : DeliveryOutcome × Sink :=
  match s.transport with
  | .localSocket path connected =>
    let (outcome, connected) := sendLocal around.sockets path connected (m.line around)
    (outcome, { s with transport := .localSocket path connected })
  | .stream address =>
    let taken := around.network.stream address (octetFrame (m.line around))
    (if taken then .delivered else .retryLater, s)
  | .datagrams address =>
    let line := m.line around
    let outcome :=
      if line.utf8ByteSize > maxNetworkDatagram then .dropPermanent
      else if around.network.datagram address line then .delivered
      else .retryLater
    (outcome, s)
  | .searchIndex document =>
    (classifyAnswer indexAccepts (around.network.post document m.body), s)
  | .customEndpoint opened closed =>
    let answer := around.network.post (route opened closed m.phase) m.body
    (classifyAnswer endpointAccepts answer, s)

end Sink

end FlowAudit
