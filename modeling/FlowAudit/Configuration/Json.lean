import FlowAudit.Configuration.Target

/-!
# Settings in JSON

The names of all settings, as they stand in a configuration, and the JSON object that shows the
settings in force. The identifier of an agent that has none is null.
-/

namespace FlowAudit

/-- The JSON object of an identity. -/
def AgentIdentity.toJson (a : AgentIdentity) : Json :=
  .object [("uuid", .ofOption (fun u => .string u.render) a.uuid), ("name", .string a.name)]

/-- The JSON object of the rules. -/
def FilterRules.toJson (r : FilterRules) : Json :=
  .object [("suppress_non_process_connections", .bool r.nonProcess), ("suppress_dns", .bool r.dns),
    ("suppress_self_traffic", .bool r.selfTraffic)]

/-- The JSON object of the settings of the source. -/
def SourceSettings.toJson (s : SourceSettings) : Json :=
  .object [("proc_root", .string s.procRoot.text),
    ("poll_interval_ms", .ofNat s.pollInterval.toNat),
    ("max_consecutive_failures", .ofNat s.maxConsecutiveFailures.toNat),
    ("initial_backoff_ms", .ofNat s.initialBackoff.toNat),
    ("max_backoff_ms", .ofNat s.maxBackoff.toNat)]

/-- The JSON object of the settings of the resolver. -/
def ResolverSettings.toJson (s : ResolverSettings) : Json :=
  .object [("proc_root", .ofOption (fun p => .string p.text) s.procRoot),
    ("socket_retry_attempts", .ofNat s.socketRetryAttempts.toNat),
    ("socket_retry_delay_ms", .ofNat s.socketRetryDelay.toNat),
    ("max_scan_processes", .ofNat s.maxScanProcesses),
    ("pid_cache_capacity", .ofNat s.pidCacheCapacity)]

/-- The JSON object of the settings of the correlator. -/
def CorrelatorSettings.toJson (s : CorrelatorSettings) : Json :=
  .object [("capacity", .ofNat s.capacity),
    ("duplicate_window_ms", .ofNat s.duplicateWindow.toNat)]

/-- The JSON object of the settings of delivery. -/
def DeliverySettings.toJson (s : DeliverySettings) : Json :=
  .object [("queue_capacity", .ofNat s.queueCapacity),
    ("delivery_timeout_ms", .ofNat s.deliveryTimeout.toNat),
    ("max_retries", .ofNat s.maxRetries.toNat),
    ("backoff_base_ms", .ofNat s.backoffBase.toNat),
    ("backoff_max_ms", .ofNat s.backoffMax.toNat),
    ("shutdown_grace_ms", .ofNat s.shutdownGrace.toNat),
    ("warn_interval_secs", .ofNat s.warnIntervalSeconds.toNat)]

/-- The JSON object of all settings. -/
def Configuration.toJson (c : Configuration) : Json :=
  .object [("agent", c.agent.toJson), ("filters", c.filters.toJson),
    ("sinks", .array (c.sinks.map SinkTarget.toJson)), ("source", c.source.toJson),
    ("resolver", c.resolver.toJson), ("correlator", c.correlator.toJson),
    ("dispatch", c.dispatch.toJson)]

end FlowAudit
