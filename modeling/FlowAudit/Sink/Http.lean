import FlowAudit.Configuration
import FlowAudit.Connection
import FlowAudit.Delivery.Worker
import FlowAudit.Url.Parser

/-!
# Sinks that are web services

A search index takes each record as a document of its own, at `{url}/{index}/_doc`; a custom
endpoint takes it at `{url}/connections/open` or `{url}/connections/close`, by its phase. Slashes at
the end of the configured URL make no difference.

Whatever goes wrong on the way to the service may pass. An answer that means success has the record
delivered; after one that asks for patience or blames the service the record is offered again; after
any other it is given up.
-/

namespace FlowAudit.Sink

open Delivery (DeliveryOutcome)

/-- A URL that cannot be read, and why. -/
structure InvalidUrl where
  url : String
  reason : UrlError
  deriving DecidableEq, Repr, Inhabited

/-- A text without the slashes at its end. -/
def trimSlashes (s : String) : String :=
  String.ofList (s.toList.reverse.dropWhile (· = '/')).reverse

/-- Reads the URL of a service as it is configured. -/
def parseBase (text : String) : Except InvalidUrl Url :=
  match Url.parse (trimSlashes text) with
  | .ok u => .ok u
  | .error reason => .error ⟨text, reason⟩

/-- The URL of something below a service. -/
def below (base : Url) (place : String) : Except InvalidUrl Url :=
  let text := trimSlashes base.render ++ "/" ++ place
  match Url.parse text with
  | .ok u => .ok u
  | .error reason => .error ⟨text, reason⟩

/-- The URL at which a search index takes documents. -/
def documentUrl (url index : String) : Except InvalidUrl Url := do
  below (← parseBase url) (index ++ "/_doc")

/-- The URL at which a custom endpoint takes the records of a phase. -/
def connectionUrl (base : Url) (phase : Phase) : Except InvalidUrl Url :=
  below base ("connections/" ++ phase.name)

/-! ### Answers -/

/-- What an answer with the given status means, when `accepted` are those that mean success. -/
def classifyStatus (accepted : Nat → Bool) (status : Nat) : DeliveryOutcome :=
  if accepted status then .delivered
  else if status = 429 ∨ (500 ≤ status ∧ status ≤ 599) then .retryLater
  else .dropPermanent

/-- Whether a search index took a document. -/
def indexAccepts (status : Nat) : Bool :=
  status = 200 || status = 201

/-- Whether a custom endpoint took a record. -/
def endpointAccepts (status : Nat) : Bool :=
  200 ≤ status && status ≤ 299

/-- The longest URL that can be asked for, in octets. -/
def maxUrl : Nat := 65534

/-- The URL as it is asked for: without user, if there is a host. -/
def requested (u : Url) : Url :=
  if u.host?.isSome then u.withoutUser else u

/-- The text shown when a service that cannot be reached is asked for `u`. -/
def unreachableText (u : Url) : String :=
  let text := (requested u).render
  let failure :=
    if u.isWeb && text.utf8ByteSize ≤ maxUrl then "error sending request" else "builder error"
  failure ++ " for url (" ++ text ++ ")"

/-! ### Where traffic goes -/

/-- The address that a host stands for, if it is written as one. -/
def addressOf? : Url.Host → Option IpAddress
  | .ipv4 x => some (.v4 x)
  | .ipv6 x => some (.v6 x)
  | .name text => IpAddress.parse? text.toList

/-- Where requests to a service go, if its URL holds the address. -/
def serviceEndpoint? (url : String) : Option Endpoint := do
  let u ← (parseBase url).toOption
  return ⟨← addressOf? (← u.host?), ← u.port?, 0⟩

/-- Where the records for a target go, as far as its address is known without asking for names. -/
def remoteEndpoints : SinkTarget → List Endpoint
  | .syslogLocal _ => []
  | .syslogTcp address | .syslogUdp address => [address]
  | .searchIndex url _ | .customEndpoint url => (serviceEndpoint? url).toList

end FlowAudit.Sink
