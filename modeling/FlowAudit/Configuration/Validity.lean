import FlowAudit.Configuration
import FlowAudit.Text.Quoted
import FlowAudit.Url.Parser

/-!
# Settings that make sense together

`Configuration.check` answers the first thing that is wrong with a configuration: there has to be a
sink, every sink has to make sense by itself and differ from those in front of it, some numbers must
not be zero, and the delay between two attempts must not start above its maximum.
-/

namespace FlowAudit

/-- What is wrong with a configuration. -/
inductive Invalidity where
  | noSinks
  | unreadableUrl (url : String) (reason : UrlError)
  | foreignScheme (url : String)
  | noHost (url : String)
  | badIndexName (index : String)
  | zeroPort (target : SinkTarget)
  /-- A sink that was configured before. -/
  | repeatedSink (target : SinkTarget)
  /-- A number that is zero. -/
  | zero (setting : String)
  /-- The first delay between attempts is longer than the longest one. -/
  | backoffOrder
  deriving DecidableEq, Repr, Inhabited

/-- The text shown for what is wrong. -/
def Invalidity.message : Invalidity → String
  | .noSinks => "at least one sink must be configured"
  | .unreadableUrl url reason =>
    "url " ++ Text.quoted url ++ " is invalid: " ++ reason.message
  | .foreignScheme url => "url " ++ Text.quoted url ++ " must use http or https"
  | .noHost url => "url " ++ Text.quoted url ++ " has no host"
  | .badIndexName index =>
    "search index name " ++ Text.quoted index ++ " must be non-empty and contain no '/'"
  | .zeroPort target => target.displayName ++ " needs a non-zero port"
  | .repeatedSink target => "sink " ++ target.displayName ++ " is configured twice"
  | .zero setting => setting ++ " must be greater than zero"
  | .backoffOrder => "dispatch.backoff_base_ms must not exceed dispatch.backoff_max_ms"

/-! ### Sinks -/

namespace SinkTarget

/-- Checks the URL of a service. -/
def checkUrl (text : String) : Except Invalidity Unit :=
  match Url.parse text with
  | .error reason => .error (.unreadableUrl text reason)
  | .ok url =>
    if !url.isWeb then .error (.foreignScheme text)
    else if url.host?.isNone then .error (.noHost text)
    else .ok ()

/-- Checks a target by itself. -/
def check : SinkTarget → Except Invalidity Unit
  | .searchIndex url index => do
    checkUrl url
    if index = "" || index.toList.contains '/' then .error (.badIndexName index)
  | .customEndpoint url => checkUrl url
  | .syslogTcp address => if address.port = 0 then .error (.zeroPort (.syslogTcp address)) else .ok ()
  | .syslogUdp address => if address.port = 0 then .error (.zeroPort (.syslogUdp address)) else .ok ()
  | .syslogLocal _ => .ok ()

/-- Checks targets behind those in `earlier`. -/
def checkAll (earlier : List SinkTarget) : List SinkTarget → Except Invalidity Unit
  | [] => .ok ()
  | t :: rest => do
    t.check
    if earlier.any t.same then .error (.repeatedSink t)
    checkAll (earlier ++ [t]) rest

end SinkTarget

/-! ### All settings -/

namespace Configuration

/-- The settings that must not be zero, in the order in which they are checked. -/
def positiveSettings (c : Configuration) : List (String × Nat) :=
  [("source.poll_interval_ms", c.source.pollInterval.toNat),
    ("source.max_consecutive_failures", c.source.maxConsecutiveFailures.toNat),
    ("correlator.capacity", c.correlator.capacity),
    ("resolver.max_scan_processes", c.resolver.maxScanProcesses),
    ("dispatch.queue_capacity", c.dispatch.queueCapacity),
    ("dispatch.delivery_timeout_ms", c.dispatch.deliveryTimeout.toNat)]

/-- Checks a configuration. -/
def check (c : Configuration) : Except Invalidity Unit := do
  if c.sinks.isEmpty then .error .noSinks
  SinkTarget.checkAll [] c.sinks
  match c.positiveSettings.find? (·.2 = 0) with
  | some (setting, _) => .error (.zero setting)
  | none => pure ()
  if c.dispatch.backoffBase > c.dispatch.backoffMax then .error .backoffOrder

end Configuration

end FlowAudit
