import FlowAudit.Proofs.Agent.Life
import FlowAudit.Proofs.Bounded.Capacity
import FlowAudit.Proofs.Configuration.Validity
import FlowAudit.Proofs.Correlator.History
import FlowAudit.Proofs.Delivery.Accesses
import FlowAudit.Proofs.Delivery.Balance
import FlowAudit.Proofs.Pipeline.Trace
import FlowAudit.Proofs.Resolver.Memory

/-!
# The room that a configuration gives

Three parts of an agent are bounded: the connections remembered as open, the holders of sockets that
are remembered, and the records that wait for each sink. Each is made for as many as its setting
says, and for one if the setting is zero.

A configuration that is accepted has no zero for the open connections and for the waiting records,
so these parts hold up to the configured number at every moment of every life of an agent. A zero
for the holders is accepted, and one is remembered then (`Agent.capacities_of_check`).
-/

namespace FlowAudit.Agent

open Delivery (Dispatcher Reaction Lane)
open Delivery.Dispatcher (Call)

variable {c : Configuration} {fresh : Uuid} {pid : UInt32} {sinks : List (String × List Reaction)}
  {stage : Stage} {taken : List Turn} {calls : List (Call Record)} {a : Agent}

/-- Every bounded part of an agent holds as many as a configuration says, and no more. -/
structure HoldsAsConfigured (a : Agent) (c : Configuration) : Prop where
  opened : a.pipeline.correlator.opened.HoldsUpTo c.correlator.capacity
  holders : a.resolver.holders.HoldsUpTo c.resolver.pidCacheCapacity
  queues : ∀ l ∈ a.dispatcher.lanes, l.worker.queue.HoldsUpTo c.dispatch.queueCapacity

/-! ### The parts of an agent -/

theorem resolver_handle (a : Agent) (around : Surroundings) (t : Transition) :
    (a.handle around t).resolver = (around.observe a.resolver t).2 := rfl

/-- The resolver of an agent is asked about every OPEN, and about nothing else. -/
theorem Life.reachable_resolver (h : Life (new c fresh pid sinks) stage taken calls a) :
    Resolver.Reachable (fun _ => True) c.resolverRoot c.resolver a.resolver := by
  induction h with
  | start => exact .new
  | @handle _ _ _ a _ transition t _ _ _ ih =>
    rw [resolver_handle]
    unfold Surroundings.observe
    cases transition.phase with
    | opened => exact ih.resolveConnection trivial transition.connection
    | closed => exact ih
  | ask _ ih | read _ _ _ _ ih | finish _ _ _ _ ih | fail _ _ _ _ ih
  | breakDown _ _ ih => exact ih
  | stop _ ih | close _ _ ih | event _ _ _ _ _ ih | clock _ _ ih | pass _ _ _ ih => exact ih

theorem Life.capacity_opened (h : Life (new c fresh pid sinks) stage taken calls a) :
    a.pipeline.correlator.opened.Valid ∧
      a.pipeline.correlator.opened.capacity = max c.correlator.capacity 1 := by
  induction h with
  | start => exact ⟨Bounded.valid_empty _, rfl⟩
  | @handle _ _ _ a watch transition t _ _ _ ih =>
    obtain ⟨hvalid, hcapacity⟩ := ih
    rw [pipeline_handle]
    obtain ⟨hvalid', hsame⟩ :=
      Pipeline.valid_process hvalid (t.around.observe a.resolver transition).1
    exact ⟨hvalid', hsame.trans hcapacity⟩
  | ask _ ih | read _ _ _ _ ih | finish _ _ _ _ ih | fail _ _ _ _ ih
  | breakDown _ _ ih => exact ih
  | stop _ ih | close _ _ ih | event _ _ _ _ _ ih | clock _ _ ih | pass _ _ _ ih => exact ih

theorem Life.holdsUpTo_queue (h : Life (new c fresh pid sinks) stage taken calls a)
    {l : Lane Record} (hl : l ∈ a.dispatcher.lanes) :
    l.worker.queue.HoldsUpTo (max c.dispatch.queueCapacity 1) := by
  obtain ⟨i, hi⟩ := List.mem_iff_getElem?.mp hl
  obtain ⟨⟨tries, hledger⟩, hcapacity, -⟩ := h.run.accounted hi
  have hone : 1 ≤ l.worker.queue.capacity := by
    rw [hcapacity]
    exact Nat.le_max_right _ _
  have hsound : l.worker.queue.Sound := ⟨hone, hledger.length_le⟩
  rw [← hcapacity]
  exact hsound.holdsUpTo

/-! ### Resolvers of a configuration -/

/-- A resolver remembers up to as many holders as were asked for, and one if none were. -/
theorem holdsUpTo_holders {hosts : HostHistory → Prop} {r : Resolver}
    (h : Resolver.Reachable hosts c.resolverRoot c.resolver r) :
    r.holders.HoldsUpTo (max c.resolver.pidCacheCapacity 1) ∧
      (r.holders.HoldsUpTo c.resolver.pidCacheCapacity ↔ c.resolver.pidCacheCapacity ≠ 0) := by
  obtain ⟨hvalid, hcapacity⟩ := h.capacity_holders
  have hholds := hvalid.holdsUpTo
  rw [hcapacity] at hholds
  refine ⟨hholds, fun hsetting hzero => ?_, fun hne => ?_⟩
  · rw [hzero] at hsetting
    exact hvalid.not_holdsUpTo_zero 0 0 hsetting
  · rwa [Nat.max_eq_left (Nat.one_le_iff_ne_zero.mpr hne)] at hholds

/-! ### All capacities -/

/-- At every moment of the life of an agent whose configuration was accepted, the open connections
and the records waiting for each sink are held up to the configured number and no more. So are the
holders of sockets if and only if their number is not configured as zero, which is accepted: one
holder is remembered then. The same holds of correlators and resolvers of such a configuration that
are no part of an agent. -/
theorem capacities_of_check (hcheck : c.check = .ok ()) :
    (∀ fresh pid sinks stage taken calls a, Life (new c fresh pid sinks) stage taken calls a →
      a.pipeline.correlator.opened.HoldsUpTo c.correlator.capacity ∧
      a.resolver.holders.HoldsUpTo (max c.resolver.pidCacheCapacity 1) ∧
      (∀ l ∈ a.dispatcher.lanes, l.worker.queue.HoldsUpTo c.dispatch.queueCapacity) ∧
      (a.HoldsAsConfigured c ↔ c.resolver.pidCacheCapacity ≠ 0)) ∧
    (∀ actions, ((Correlator.new c.correlator).after actions).opened.HoldsUpTo
      c.correlator.capacity) ∧
    (∀ hosts r, Resolver.Reachable hosts c.resolverRoot c.resolver r →
      r.holders.HoldsUpTo (max c.resolver.pidCacheCapacity 1) ∧
      (r.holders.HoldsUpTo c.resolver.pidCacheCapacity ↔ c.resolver.pidCacheCapacity ≠ 0)) := by
  have hsound : c.IsSound := (Configuration.check_decides c).ok_iff.mp hcheck
  have hcorrelator : max c.correlator.capacity 1 = c.correlator.capacity :=
    Nat.max_eq_left hsound.capacity
  have hqueue : max c.dispatch.queueCapacity 1 = c.dispatch.queueCapacity :=
    Nat.max_eq_left hsound.queueCapacity
  refine ⟨fun fresh pid sinks stage taken calls a h => ?_, fun actions => ?_,
    fun hosts r h => holdsUpTo_holders h⟩
  · obtain ⟨hvalid, hcapacity⟩ := h.capacity_opened
    have hopened := hvalid.holdsUpTo
    rw [hcapacity, hcorrelator] at hopened
    obtain ⟨hholders, hiff⟩ := holdsUpTo_holders h.reachable_resolver
    have hqueues : ∀ l ∈ a.dispatcher.lanes,
        l.worker.queue.HoldsUpTo c.dispatch.queueCapacity := by
      intro l hl
      rw [← hqueue]
      exact h.holdsUpTo_queue hl
    exact ⟨hopened, hholders, hqueues, fun hall => hiff.mp hall.holders,
      fun hne => ⟨hopened, hiff.mpr hne, hqueues⟩⟩
  · obtain ⟨hrecalls, hcapacity, -⟩ := Correlator.recalls_after c.correlator actions
    have hopened := hrecalls.valid.holdsUpTo
    rwa [hcapacity, hcorrelator] at hopened

/-! ### No holders asked for -/

/-- A configuration that asks for no holder of a socket to be remembered. -/
def cacheless : Configuration where
  sinks := [.syslogLocal defaultSyslogSocket]
  resolver := { pidCacheCapacity := 0 }
  correlator := { capacity := 2 }
  dispatch := { queueCapacity := 3 }

/-- It is accepted, and an agent that just started has room for two connections, three records and
one holder. -/
theorem capacities_of_cacheless : cacheless.check = .ok () ∧
    ∃ a, Life (new cacheless .nil 7 [("log", [])]) (.watching false) [] [] a ∧
      a.pipeline.correlator.opened.HoldsUpTo 2 ∧ a.resolver.holders.HoldsUpTo 1 ∧
      ∀ l ∈ a.dispatcher.lanes, l.worker.queue.HoldsUpTo 3 := by
  have hcheck : cacheless.check = .ok () := rfl
  obtain ⟨hlife, -, -⟩ := capacities_of_check hcheck
  obtain ⟨hopened, hholders, hqueues, -⟩ := hlife .nil 7 [("log", [])] _ _ _ _ .start
  exact ⟨hcheck, _, .start, hopened, hholders, hqueues⟩

/-- It is accepted, and yet the first holder that is found will be remembered. -/
theorem not_holdsAsConfigured_of_cacheless : cacheless.check = .ok () ∧
    ∃ a, Life (new cacheless .nil 7 [("log", [])]) (.watching false) [] [] a ∧
      ¬ a.resolver.holders.HoldsUpTo cacheless.resolver.pidCacheCapacity ∧
      ¬ a.HoldsAsConfigured cacheless := by
  have hvalid : (new cacheless .nil 7 [("log", [])]).resolver.holders.Valid :=
    Bounded.valid_empty _
  have hnot := hvalid.not_holdsUpTo_zero 0 0
  exact ⟨rfl, _, .start, hnot, fun hall => hnot hall.holders⟩

end FlowAudit.Agent
