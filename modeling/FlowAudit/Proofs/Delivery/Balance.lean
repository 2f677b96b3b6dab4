import FlowAudit.Proofs.Delivery.Ledger
import FlowAudit.Proofs.Delivery.Run

/-!
# Every dispatched record is accounted for

In every run of a dispatcher, every lane accounts for the records that were dispatched before its
queue was closed (`Dispatcher.Run.accounted`). So the numbers in the reports of a dispatcher that
has stopped add up to the records dispatched, but for a record that a worker held when it was cut
off.
-/

namespace FlowAudit.Delivery

variable {α : Type}

/-- A worker accounts for the records that its queue took in until it was closed. -/
structure Worker.Accounted (settings : DeliverySettings) (records : List α) (closed : Bool)
    (w : Worker α) : Prop where
  ledger : ∃ tries, w.Ledger records tries
  capacity_eq : w.queue.capacity = max settings.queueCapacity 1
  closed_eq : w.queue.closed = closed

namespace Worker.Accounted

variable {settings : DeliverySettings} {records : List α} {closed : Bool} {w : Worker α}

/-- A record is accounted for if the queue is open, and is not taken in otherwise. -/
theorem push (h : w.Accounted settings records closed) (a : α) :
    (w.push a).Accounted settings (records ++ if closed then [] else [a]) closed := by
  obtain ⟨⟨tries, hledger⟩, hcap, hclosed⟩ := h
  cases closed with
  | true =>
    rw [push_of_closed hclosed, if_pos rfl, List.append_nil]
    exact ⟨⟨tries, hledger⟩, hcap, hclosed⟩
  | false =>
    have hone : 1 ≤ w.queue.capacity := by
      rw [hcap]
      exact Nat.le_max_right _ _
    refine ⟨⟨tries, hledger.push hclosed hone a⟩, ?_, ?_⟩
    · rw [push_of_open hclosed]
      split <;> exact hcap
    · rw [push_of_open hclosed]
      split <;> exact hclosed

theorem event {w' : Worker α} {bound : Nat} (h : w.Accounted settings records closed)
    (hevent : w.Event bound w') : w'.Accounted settings records closed := by
  obtain ⟨⟨tries, hledger⟩, hcap, hclosed⟩ := h
  obtain ⟨hcap', hclosed'⟩ := queue_event hevent
  exact ⟨hledger.event hevent, hcap'.trans hcap, hclosed'.trans hclosed⟩

end Worker.Accounted

namespace Dispatcher

variable {settings : DeliverySettings} {sinks : List (String × List Reaction)}
  {calls : List (Call α)} {stopped : Option Nat} {d : Dispatcher α}

/-- In every run every lane accounts for the records dispatched before its queue was closed. -/
theorem Run.accounted (h : Run settings sinks calls stopped d) {i : Nat} {l : Lane α}
    (hl : d.lanes[i]? = some l) :
    l.worker.Accounted settings (accepted i calls) (calls.any (Call.closes i)) := by
  induction h generalizing l with
  | new =>
    obtain ⟨sink, -, rfl⟩ := Option.map_eq_some_iff.mp (List.getElem?_map.symm.trans hl)
    exact ⟨⟨[], Worker.ledger_new settings sink.2⟩, rfl, rfl⟩
  | dispatch a _ ih =>
    rw [Dispatcher.dispatch, getElem?_mapWorkers, Option.map_eq_some_iff] at hl
    obtain ⟨l', hl', rfl⟩ := hl
    have hany : [Call.dispatch a].any (Call.closes i) = false := rfl
    have hrecords : accepted i [Call.dispatch a] = [a] := rfl
    rw [accepted_append, List.any_append, hany, hrecords, Bool.or_false]
    exact (ih hl').push a
  | stop _ ih =>
    rw [getElem?_mapWorkers, Option.map_eq_some_iff] at hl
    obtain ⟨l', hl', rfl⟩ := hl
    obtain ⟨⟨tries, hledger⟩, hcap, hclosed⟩ := ih hl'
    exact ⟨⟨tries, hledger.stop⟩, hcap, hclosed⟩
  | close k _ ih =>
    have hrecords : accepted i [Call.close k] = ([] : List α) := by
      simp [accepted]
    rw [accepted_append, List.any_append, hrecords, ite_self, List.append_nil]
    rw [getElem?_mapLane] at hl
    by_cases hk : k = i
    · rw [if_pos hk, Option.map_eq_some_iff] at hl
      obtain ⟨l', hl', rfl⟩ := hl
      obtain ⟨⟨tries, hledger⟩, hcap, -⟩ := ih hl'
      have hany : [Call.close k (α := α)].any (Call.closes i) = true := by simp [Call.closes, hk]
      rw [hany, Bool.or_true]
      exact ⟨⟨tries, hledger.close⟩, hcap, rfl⟩
    · rw [if_neg hk] at hl
      simpa [Call.closes, hk] using ih hl
  | event k bound _ hl' hstep ih =>
    rw [getElem?_mapLane] at hl
    by_cases hk : k = i
    · subst hk
      rw [if_pos rfl, hl', Option.map_some, Option.some.injEq] at hl
      subst hl
      exact (ih hl').event (Worker.event_of_step? hstep)
    · rw [if_neg hk] at hl
      exact ih hl
  | clock t _ ih =>
    rw [getElem?_mapWorkers, Option.map_eq_some_iff] at hl
    obtain ⟨l', hl', rfl⟩ := hl
    obtain ⟨⟨tries, hledger⟩, hcap, hclosed⟩ := ih hl'
    exact ⟨⟨tries, hledger.clock t⟩, hcap, hclosed⟩
  | pass _ _ _ ih => exact ih hl

/-- What a lane accounts for adds up. -/
theorem Run.length_accepted (h : Run settings sinks calls stopped d) {i : Nat} {l : Lane α}
    (hl : d.lanes[i]? = some l) :
    (accepted i calls).length = l.report.stats.delivered + l.report.stats.droppedOldest +
      l.report.stats.droppedPermanent + l.report.abandoned + l.worker.inFlight.length := by
  obtain ⟨tries, hledger⟩ := (h.accounted hl).ledger
  have haccepted := hledger.length_accepted
  have htries := hledger.length_tries
  rw [Lane.report]
  dsimp only
  omega

/-- A worker that has finished holds no record, and none waits in its queue. -/
theorem Run.of_isFinished (h : Run settings sinks calls stopped d) {i : Nat} {l : Lane α}
    (hl : d.lanes[i]? = some l) (hfinished : l.worker.isFinished = true) :
    l.worker.inFlight = [] ∧ l.report.abandoned = 0 := by
  have hact : l.worker.activity = .finished := by
    unfold Worker.isFinished at hfinished
    split at hfinished
    · assumption
    · cases hfinished
  obtain ⟨tries, hledger⟩ := (h.accounted hl).ledger
  refine ⟨by rw [Worker.inFlight, hact], ?_⟩
  rw [Lane.report, (hledger.of_finished hact).2, List.length_nil]

/-- At every moment of every run a queue holds no more records than it may, its worker at most one,
and the records that were tried are some of those dispatched, in their order. When the dispatcher
has stopped, which it does by `Dispatcher.shutdown`, the numbers in every report add up to the
records dispatched before the queue was closed, but for one that the worker held when it was cut off
at the end of the grace period; a worker that finished in time leaves nothing behind. -/
theorem balance_of_run (settings : DeliverySettings) (sinks : List (String × List Reaction))
    (hcap : 1 ≤ settings.queueCapacity) :
    (∀ (calls : List (Call α)) stopped d, Run settings sinks calls stopped d →
      ∀ (i : Nat) l, d.lanes[i]? = some l →
        l.worker.queue.items.length ≤ settings.queueCapacity ∧ l.worker.inFlight.length ≤ 1 ∧
        ∃ tries, l.worker.attempts.map Attempt.record = Worker.offers tries ∧
          (tries.map Prod.fst).Sublist (accepted i calls)) ∧
    (∀ (calls : List (Call α)) d, Run settings sinks calls none d →
      ∃ closes aborted, Ends settings sinks (calls ++ closes) aborted d.shutdown ∧
        ∀ i, accepted i (calls ++ closes) = accepted i calls) ∧
    (∀ (calls : List (Call α)) aborted d, Ends settings sinks calls aborted d →
      ∀ (i : Nat) l, d.lanes[i]? = some l →
        ∃ f, (accepted i calls).length = l.report.stats.delivered + l.report.stats.droppedOldest +
            l.report.stats.droppedPermanent + l.report.abandoned + f ∧ f ≤ 1 ∧
          (f = 1 → aborted = true ∧ l.worker.isFinished = false ∧ ∃ a, l.worker.inFlight = [a]) ∧
          (l.worker.isFinished = true → f = 0 ∧ l.report.abandoned = 0)) := by
  refine ⟨?_, ?_, ?_⟩
  · intro calls stopped d hrun i l hl
    have haccounted := hrun.accounted hl
    obtain ⟨tries, hledger⟩ := haccounted.ledger
    have hle := hledger.length_le
    rw [haccounted.capacity_eq, Nat.max_eq_left hcap] at hle
    refine ⟨hle, l.worker.length_inFlight_le, tries, hledger.attempts_eq, ?_⟩
    exact (List.sublist_append_left _ _).trans hledger.sublist
  · intro calls d hrun
    refine ⟨_, _, hrun.shutdown, fun i => ?_⟩
    rw [accepted_append, accepted_map_close, ite_self, List.append_nil]
  · intro calls aborted d hend i l hl
    obtain ⟨t, hrun⟩ := hend.run
    refine ⟨_, hrun.length_accepted hl, l.worker.length_inFlight_le, fun hone => ?_, fun hf => ?_⟩
    · -- a worker that holds a record has not finished, so not all have
      obtain ⟨a, ha⟩ := List.length_eq_one_iff.mp hone
      have hunfinished : l.worker.isFinished = false := by
        by_contra hfinished
        rw [Bool.not_eq_false] at hfinished
        rw [(hrun.of_isFinished hl hfinished).1] at ha
        cases ha
      refine ⟨?_, hunfinished, a, ha⟩
      cases hend with
      | cutOff => rfl
      | drained _ hall =>
        rw [hall l (List.mem_of_getElem? hl)] at hunfinished
        cases hunfinished
    · obtain ⟨hheld, habandoned⟩ := hrun.of_isFinished hl hf
      exact ⟨by rw [hheld, List.length_nil], habandoned⟩

/-! ### A sink that hangs -/

/-- A dispatcher with a queue for one record and a sink that never answers. -/
def hungSettings : DeliverySettings :=
  { queueCapacity := 1 }

/-- Three records are dispatched: the first one is taken, the second one dropped for the third. -/
theorem exists_ends_hung : ∃ (d : Dispatcher Nat) (l : Lane Nat),
    Ends hungSettings [("hung", [.hang])] [.dispatch 1, .dispatch 2, .dispatch 3, .close 0] true d ∧
      d.lanes[0]? = some l ∧ l.report = ⟨"hung", { droppedOldest := 1 }, 1⟩ := by
  have hnew : Run hungSettings [("hung", [.hang])] [] none
      (.new hungSettings [("hung", [.hang])]) := .new (α := Nat)
  have htaken := (hnew.dispatch 1).event 0 1 rfl rfl
  have hclosed := ((htaken.dispatch 2).dispatch 3).stop.close 0
  have hend := hclosed.pass hungSettings.shutdownGrace.toNat (Nat.zero_le _)
  exact ⟨_, _, .cutOff hend ⟨_, List.mem_singleton_self _, rfl⟩ rfl, rfl, rfl⟩

/-- The report accounts for two of three records, so the worker was cut off with the other one. -/
theorem inFlight_of_hung : ∃ (d : Dispatcher Nat) (l : Lane Nat),
    Ends hungSettings [("hung", [.hang])] [.dispatch 1, .dispatch 2, .dispatch 3, .close 0] true d ∧
      d.lanes[0]? = some l ∧ l.worker.queue.items.length ≤ 1 ∧ ∃ a, l.worker.inFlight = [a] := by
  obtain ⟨d, l, hend, hl, hreport⟩ := exists_ends_hung
  obtain ⟨hmoment, -, hends⟩ :=
    balance_of_run (α := Nat) hungSettings [("hung", [.hang])] (Nat.le_refl 1)
  obtain ⟨f, hsum, -, hheld, -⟩ := hends _ _ _ hend 0 l hl
  rw [hreport] at hsum
  have hthree : 3 = 0 + 1 + 0 + 1 + f := hsum
  have hone : f = 1 := by omega
  obtain ⟨t, hrun⟩ := hend.run
  exact ⟨d, l, hend, hl, (hmoment _ _ _ hrun 0 l hl).1, (hheld hone).2.2⟩

end Dispatcher

end FlowAudit.Delivery
