import FlowAudit.Correlator
import FlowAudit.Resolver

/-!
# What the handling of a transition meets

The host, the clocks and the source of identifiers are no part of what is computed from them: they
are given as a `Surroundings` for each transition.
-/

namespace FlowAudit

/-- What the handling of a transition meets. -/
structure Surroundings where
  host : HostHistory
  /-- An identifier that was never used before. -/
  fresh : Uuid
  timestamp : Timestamp
  /-- The time on the monotonic clock in milliseconds. -/
  now : Nat

namespace Surroundings

/-- The observation of a transition about whose process something is found. -/
def observation (s : Surroundings) (t : Transition) (found : Resolution) :
    Correlator.Observation :=
  ⟨t, found, s.fresh, s.timestamp, s.now⟩

/-- Observes a transition. Only for an OPEN is the process looked for: when a connection closes its
socket may be gone already. -/
def observe (s : Surroundings) (r : Resolver) (t : Transition) :
    Correlator.Observation × Resolver :=
  match t.phase with
  | .opened =>
    let (found, r) := r.resolveConnection s.host t.connection
    (s.observation t found, r)
  | .closed => (s.observation t .unresolved, r)

end Surroundings

end FlowAudit
