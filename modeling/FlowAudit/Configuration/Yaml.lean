import FlowAudit.Configuration.Target
import FlowAudit.Yaml.Node.Grammar
import FlowAudit.Yaml.Scalar

/-!
# Settings in YAML

`Configuration.ofYaml?` reads a configuration. Settings are members of mappings, each with a default;
an empty node is a mapping without members. A setting that is given twice is refused. A member that is
no setting is passed over, but not at the top, where it is refused.

Aliases are followed. A text whose aliases are followed much more often than it is long is refused, and
so is one that is nested too deeply where any value may stand.
-/

namespace FlowAudit.Yaml

/-- A step that reads nodes of a document and may fail; it counts the aliases that were followed. -/
abbrev Decode := ReaderT Document (StateT Nat Option)

namespace Decode

/-- How many times its size the aliases of a document may be followed. -/
def maxAliasFactor : Nat := 100

/-- The node itself, or what an alias stands for. -/
def resolve (n : Node) : Decode Node := do
  match n with
  | .reference anchor =>
    let d ← read
    let followed := (← get) + 1
    if followed > d.size * maxAliasFactor then failure
    set followed
    match d.target? anchor with
    | some target => return target
    | none => failure
  | _ => return n

/-! ### Values of one kind -/

/-- Reads a text; any scalar is one. -/
def text (n : Node) : Decode String := do
  match ← resolve n with
  | .scalar _ _ s => return s
  | _ => failure

/-- Reads a truth value. -/
def bool (n : Node) : Decode Bool := do
  match ← resolve n with
  | .scalar tag style s =>
    match if standsFor "bool" tag style then bool? s else none with
    | some b => return b
    | none => failure
  | _ => failure

/-- Reads a whole number of at most `bits` bits. -/
def unsigned (bits : Nat) (n : Node) : Decode Nat := do
  match ← resolve n with
  | .scalar tag style s =>
    match if standsFor "int" tag style then natural? s.toList else none with
    | some k => if k ≤ Text.maxOfBits bits then return k else failure
    | none => failure
  | _ => failure

/-- Reads a number of thirty-two bits. -/
def word32 (n : Node) : Decode UInt32 :=
  return UInt32.ofNat (← unsigned 32 n)

/-- Reads a number of sixty-four bits. -/
def word64 (n : Node) : Decode UInt64 :=
  return UInt64.ofNat (← unsigned 64 n)

/-- Reads a path. -/
def path (n : Node) : Decode Path :=
  return ⟨← text n⟩

/-- Reads a value that may be null. -/
def optional {α : Type} (decode : Node → Decode α) (n : Node) : Decode (Option α) := do
  let n ← resolve n
  match n with
  | .scalar tag .plain s =>
    let asked := tag = some (standardTag "null")
    if asked && !isNull s then failure
    if asked || s = "" || isNull s then return none
    return some (← decode n)
  | _ => return some (← decode n)

/-- Reads the items of a list; an empty node has none. -/
def items (n : Node) : Decode (List Node) := do
  match ← resolve n with
  | .sequence _ ns => return ns
  | .scalar _ .plain "" => return []
  | _ => failure

/-! ### Settings -/

/-- Reads the members of a mapping; an empty node has none. -/
def members (n : Node) : Decode (List (Node × Node)) := do
  match ← resolve n with
  | .mapping _ ms => return ms
  | .scalar _ .plain "" => return []
  | _ => failure

/-- Puts the value of a member where its setting is. -/
def putSetting (names : List String) (closed : Bool) (values : List (Option Node))
    (member : Node × Node) : Decode (List (Option Node)) := do
  match names.idxOf? (← text member.1) with
  | some i => if (values.getD i none).isSome then failure else return values.set i (some member.2)
  | none => if closed then failure else return values

/-- Reads the values of the settings with the given names, in their order; `closed` tells whether other
members are refused. -/
def settings (names : List String) (closed : Bool) (n : Node) : Decode (List (Option Node)) := do
  (← members n).foldlM (putSetting names closed) (names.map fun _ => none)

/-- Reads a setting that has a default. -/
def orElse {α : Type} (default : α) (decode : Node → Decode α) : Option Node → Decode α
  | some n => decode n
  | none => return default

/-! ### Values of any kind -/

/-- What a node stands for where any value may stand, nested at most `depth` deep. -/
def value (depth : Nat) (n : Node) : Decode ScalarValue := do
  match depth, ← resolve n with
  | _, .scalar tag style s =>
    match scalarValue? tag style s with
    | some v => return v
    | none => failure
  | depth + 1, .sequence tag ns =>
    if tag.any isLocalTag then failure
    ns.forM fun n => do discard (value depth n)
    return .other
  | depth + 1, .mapping tag ms =>
    if tag.any isLocalTag then failure
    ms.forM fun m => do
      discard (value depth m.1)
      discard (value depth m.2)
    return .other
  | _, _ => failure

end Decode

end FlowAudit.Yaml

namespace FlowAudit

open Yaml (Node ScalarValue)
open Yaml.Decode (text bool unsigned word32 word64 path optional items settings orElse)

/-! ### Sinks -/

namespace SinkTarget

/-- How deep the values in a target may be nested: all settings together may be nested 128 deep, and a
target is the third level of them. -/
def maxYamlDepth : Nat := 125

/-- The text of a value, if it is one. -/
def textOf : ScalarValue → Option String
  | .text s => some s
  | _ => none

/-- The name that a value is to a member. -/
def memberNameOf : ScalarValue → MemberName
  | .text s => .text s
  | .natural n => .number n
  | .other => .other

/-- Reads a member of a target. The kind may be written as any scalar. -/
def decodeMember (m : Node × Node) : Yaml.Decode (MemberName × Option String) := do
  let name := memberNameOf (← Yaml.Decode.value maxYamlDepth m.1)
  if name = .text kindField then
    return (name, some (← text m.2))
  else
    return (name, textOf (← Yaml.Decode.value maxYamlDepth m.2))

/-- Reads a written target. -/
def decodeForm (n : Node) : Yaml.Decode Form := do
  match ← Yaml.Decode.resolve n with
  | .mapping tag ms =>
    if tag.any Yaml.isLocalTag then failure
    return .members (← ms.mapM decodeMember)
  | .sequence tag (kind :: ns) =>
    if tag.any Yaml.isLocalTag then failure
    let values ← ns.mapM fun n => return textOf (← Yaml.Decode.value maxYamlDepth n)
    return .items (some (← text kind) :: values)
  | _ => failure

/-- Reads a target. -/
def decode (n : Node) : Yaml.Decode SinkTarget := do
  match ofForm? (← decodeForm n) with
  | some t => return t
  | none => failure

end SinkTarget

/-! ### Parts -/

/-- Reads the identifier of an agent. -/
def AgentIdentity.decodeUuid (n : Node) : Yaml.Decode Uuid := do
  match Uuid.parse? (← text n).toList with
  | some u => return u
  | none => failure

/-- Reads an identity. -/
def AgentIdentity.decode (n : Node) : Yaml.Decode AgentIdentity := do
  match ← settings ["uuid", "name"] false n with
  | [uuid, name] =>
    let uuid ← uuid.mapM decodeUuid
    return { uuid, name := ← orElse programName text name }
  | _ => failure

/-- Reads the rules. -/
def FilterRules.decode (n : Node) : Yaml.Decode FilterRules := do
  let standard : FilterRules := {}
  let names := ["suppress_non_process_connections", "suppress_dns", "suppress_self_traffic"]
  match ← settings names false n with
  | [nonProcess, dns, selfTraffic] =>
    return {
      nonProcess := ← orElse standard.nonProcess bool nonProcess
      dns := ← orElse standard.dns bool dns
      selfTraffic := ← orElse standard.selfTraffic bool selfTraffic }
  | _ => failure

/-- Reads the settings of the source. -/
def SourceSettings.decode (n : Node) : Yaml.Decode SourceSettings := do
  let standard : SourceSettings := {}
  let names := ["proc_root", "poll_interval_ms", "max_consecutive_failures", "initial_backoff_ms",
    "max_backoff_ms"]
  match ← settings names false n with
  | [procRoot, pollInterval, maxFailures, initialBackoff, maxBackoff] =>
    return {
      procRoot := ← orElse standard.procRoot path procRoot
      pollInterval := ← orElse standard.pollInterval word64 pollInterval
      maxConsecutiveFailures := ← orElse standard.maxConsecutiveFailures word32 maxFailures
      initialBackoff := ← orElse standard.initialBackoff word64 initialBackoff
      maxBackoff := ← orElse standard.maxBackoff word64 maxBackoff }
  | _ => failure

/-- Reads the settings of the resolver. -/
def ResolverSettings.decode (n : Node) : Yaml.Decode ResolverSettings := do
  let standard : ResolverSettings := {}
  let names := ["proc_root", "socket_retry_attempts", "socket_retry_delay_ms", "max_scan_processes",
    "pid_cache_capacity"]
  match ← settings names false n with
  | [procRoot, attempts, delay, processes, capacity] =>
    return {
      procRoot := ← orElse standard.procRoot (optional path) procRoot
      socketRetryAttempts := ← orElse standard.socketRetryAttempts word32 attempts
      socketRetryDelay := ← orElse standard.socketRetryDelay word64 delay
      maxScanProcesses := ← orElse standard.maxScanProcesses (unsigned 64) processes
      pidCacheCapacity := ← orElse standard.pidCacheCapacity (unsigned 64) capacity }
  | _ => failure

/-- Reads the settings of the correlator. -/
def CorrelatorSettings.decode (n : Node) : Yaml.Decode CorrelatorSettings := do
  let standard : CorrelatorSettings := {}
  match ← settings ["capacity", "duplicate_window_ms"] false n with
  | [capacity, window] =>
    return {
      capacity := ← orElse standard.capacity (unsigned 64) capacity
      duplicateWindow := ← orElse standard.duplicateWindow word64 window }
  | _ => failure

/-- Reads the settings of delivery. -/
def DeliverySettings.decode (n : Node) : Yaml.Decode DeliverySettings := do
  let standard : DeliverySettings := {}
  let names := ["queue_capacity", "delivery_timeout_ms", "max_retries", "backoff_base_ms",
    "backoff_max_ms", "shutdown_grace_ms", "warn_interval_secs"]
  match ← settings names false n with
  | [capacity, timeout, retries, base, limit, grace, interval] =>
    return {
      queueCapacity := ← orElse standard.queueCapacity (unsigned 64) capacity
      deliveryTimeout := ← orElse standard.deliveryTimeout word64 timeout
      maxRetries := ← orElse standard.maxRetries word32 retries
      backoffBase := ← orElse standard.backoffBase word64 base
      backoffMax := ← orElse standard.backoffMax word64 limit
      shutdownGrace := ← orElse standard.shutdownGrace word64 grace
      warnIntervalSeconds := ← orElse standard.warnIntervalSeconds word64 interval }
  | _ => failure

/-! ### All settings -/

namespace Configuration

/-- Reads all settings. -/
def decode (n : Node) : Yaml.Decode Configuration := do
  let names := ["agent", "filters", "sinks", "source", "resolver", "correlator", "dispatch"]
  match ← settings names true n with
  | [agent, filters, sinks, source, resolver, correlator, dispatch] =>
    return {
      agent := ← orElse {} AgentIdentity.decode agent
      filters := ← orElse {} FilterRules.decode filters
      sinks := ← orElse [] (fun n => do (← items n).mapM SinkTarget.decode) sinks
      source := ← orElse {} SourceSettings.decode source
      resolver := ← orElse {} ResolverSettings.decode resolver
      correlator := ← orElse {} CorrelatorSettings.decode correlator
      dispatch := ← orElse {} DeliverySettings.decode dispatch }
  | _ => failure

/-- The configuration in a text; a text without document asks for nothing but defaults. -/
def ofYaml? (text : String) : Option Configuration := do
  let document ← Yaml.Document.ofText? text
  match document.root with
  | none => return {}
  | some root => return (← ((decode root).run document).run 0).1

end Configuration

end FlowAudit
