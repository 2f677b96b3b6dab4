import FlowAudit.Proofs.Agent.Life
import FlowAudit.Proofs.Delivery.Balance
import FlowAudit.Proofs.Pipeline.Lifetimes

/-!
# Every record of an agent is accounted for

While an agent watches the table the queues of all its sinks are open, so every record that it makes
is taken in by all of them (`Agent.Life.accepted_eq`). When the agent has ended, with an error or
without, the report of each sink accounts for all these records, but for one that the worker held
when it was cut off. Only then does the agent answer, with the error that ended it if there was one
(`Agent.balance_of_ends`).
-/

namespace FlowAudit.Agent

open Conntrack (Watch)
open Delivery (Dispatcher Reaction Lane Worker)
open Delivery.Dispatcher (Call accepted accepted_append)

variable {c : Configuration} {fresh : Uuid} {pid : UInt32} {sinks : List (String × List Reaction)}
  {start a : Agent} {stage : Stage} {taken : List Turn} {calls : List (Call Record)}

/-- The records that were dispatched, whether or not a queue took them in. -/
def dispatched : List (Call Record) → List Record
  | [] => []
  | .dispatch r :: rest => r :: dispatched rest
  | .close _ :: rest => dispatched rest

theorem dispatched_append (calls calls' : List (Call Record)) :
    dispatched (calls ++ calls') = dispatched calls ++ dispatched calls' := by
  induction calls with
  | nil => rfl
  | cons call calls ih => cases call <;> simp [dispatched, ih]

/-- A queue that is not closed takes in all that is dispatched. -/
theorem accepted_eq_dispatched {i : Nat} (h : calls.any (Call.closes i) = false) :
    accepted i calls = dispatched calls := by
  induction calls with
  | nil => rfl
  | cons call calls ih =>
    rw [List.any_cons, Bool.or_eq_false_iff] at h
    cases call with
    | dispatch r => rw [accepted, dispatched, ih h.2]
    | close k =>
      have hk : k ≠ i := by simpa [Call.closes] using h.1
      rw [accepted, if_neg hk, dispatched, ih h.2]

theorem dispatched_map_dispatch (records : List Record) :
    dispatched (records.map Call.dispatch) = records := by
  induction records with
  | nil => rfl
  | cons r records ih => rw [List.map_cons, dispatched, ih]

namespace Life

/-- No queue is closed as long as something may be handled. -/
theorem any_closes_eq_false (h : Life start stage taken calls a) (hstage : stage.stopped = none)
    (i : Nat) : calls.any (Call.closes i) = false := by
  induction h with
  | start => rfl
  | ask _ ih | read _ _ _ _ ih | finish _ _ _ _ ih | fail _ _ _ _ ih
  | breakDown _ _ ih => exact ih rfl
  | handle t _ _ _ ih =>
    rw [List.any_append, ih rfl]
    simp [Call.closes]
  | stop | close => cases hstage
  | event _ _ _ _ _ ih | clock _ _ ih | pass _ _ _ ih => exact ih hstage

/-- Every queue takes in all records that are dispatched. -/
theorem accepted_eq (h : Life start stage taken calls a) (i : Nat) :
    accepted i calls = dispatched calls := by
  induction h with
  | start => rfl
  | ask _ ih | read _ _ _ _ ih | finish _ _ _ _ ih | fail _ _ _ _ ih
  | breakDown _ _ ih | stop _ ih => exact ih
  | handle t h hasks hturn =>
    exact accepted_eq_dispatched ((h.handle t hasks hturn).any_closes_eq_false rfl i)
  | close k _ ih =>
    have hnone : accepted i [Call.close (α := Record) k] = [] := by simp [accepted]
    rw [accepted_append, hnone, ite_self, ih, dispatched_append]
    rfl
  | event _ _ _ _ _ ih | clock _ _ ih | pass _ _ _ ih => exact ih

/-- The records counted as emitted are those that were dispatched. -/
theorem length_dispatched (h : Life (new c fresh pid sinks) stage taken calls a) :
    (dispatched calls).length = a.pipeline.counters.emitted := by
  induction h with
  | start => rfl
  | ask _ ih | read _ _ _ _ ih | finish _ _ _ _ ih | fail _ _ _ _ ih
  | breakDown _ _ ih | stop _ ih => exact ih
  | handle t _ _ _ ih =>
    rw [dispatched_append, List.length_append, ih, dispatched_map_dispatch, pipeline_handle,
      Pipeline.emitted_process]
    rfl
  | close k _ ih =>
    rw [dispatched_append, List.length_append, ih]
    rfl
  | event _ _ _ _ _ ih | clock _ _ ih | pass _ _ _ ih => exact ih

/-- What the report of a sink accounts for adds up to the records emitted. -/
theorem emitted_eq (h : Life (new c fresh pid sinks) stage taken calls a) {i : Nat}
    {l : Lane Record} (hl : a.dispatcher.lanes[i]? = some l) :
    a.report.counters.emitted = l.report.stats.delivered + l.report.stats.droppedOldest +
      l.report.stats.droppedPermanent + l.report.abandoned + l.worker.inFlight.length := by
  rw [← h.run.length_accepted hl, h.accepted_eq i, h.length_dispatched]
  rfl

end Life

/-- When an agent answers, its sinks were asked to stop, and all workers have finished or the grace
period is over. -/
theorem Ends.exists_stopping {answer : Except AgentError AgentReport} {aborted : Bool}
    (h : Ends (new c fresh pid sinks) taken answer aborted a) :
    ∃ error since calls, Life (new c fresh pid sinks) (.stopping error since) taken calls a ∧
      answer = a.answer error ∧
      (aborted = false ∧ (∀ l ∈ a.dispatcher.lanes, l.worker.isFinished = true) ∨
        aborted = true ∧ a.dispatcher.time = since + c.dispatch.shutdownGrace.toNat) := by
  cases h with
  | drained h hall => exact ⟨_, _, _, h, rfl, .inl ⟨rfl, hall⟩⟩
  | cutOff h _ htime =>
    rw [h.run.settings_eq] at htime
    exact ⟨_, _, _, h, rfl, .inr ⟨rfl, htime⟩⟩

/-- An agent that is given turns answers the error with which its watch gives up over their rounds,
and its report if it does not give up. Its run is one of its lives, with these turns up to the one
in which the watch ended, or with all of them and one in which it was asked to stop.

In every life the queues are open as long as anything may be handled, so no queue refuses a record.
When an agent answers, its sinks have stopped: all workers have finished, or the grace period is
over. It answers the error with which its watch gave up, or with which whoever watched broke down,
and its report if the watch ended without one. Then the numbers in the report of every sink add up
to the records emitted, all of which its queue took in, but for one that its worker held when it was
cut off at the end of the grace period. -/
theorem balance_of_ends (c : Configuration) (fresh : Uuid) (pid : UInt32)
    (sinks : List (String × List Reaction)) :
    (∀ turns answer z, (new c fresh pid sinks).run turns = (answer, z) →
      (∀ e, (Watch.new c.source).gaveUp? (turns.map (·.round)) = some e →
        answer = .error (.watch e)) ∧
      ((Watch.new c.source).gaveUp? (turns.map (·.round)) = none → answer = .ok z.report) ∧
      ∃ taken aborted a, Ends (new c fresh pid sinks) taken answer aborted a ∧
        (taken <+: turns ∨ ∃ last, last.round.stopBefore = true ∧ taken = turns ++ [last]) ∧
        a.pipeline = z.pipeline ∧ a.dispatcher = z.dispatcher) ∧
    (∀ asked taken calls a, Life (new c fresh pid sinks) (.watching asked) taken calls a →
      ∀ l ∈ a.dispatcher.lanes, l.worker.queue.closed = false) ∧
    (∀ taken answer aborted a, Ends (new c fresh pid sinks) taken answer aborted a →
      (∃ error since calls, Life (new c fresh pid sinks) (.stopping error since) taken calls a ∧
        (error = none → answer = .ok a.report) ∧ (∀ e, error = some e → answer = .error e) ∧
        (∃ steps, (Watch.new c.source).Run (taken.map (·.round)) steps a.watch ∧
          (error = none ↔ steps.getLast?.bind (·.answer) = some .ended) ∧
          ∀ e, error = some (.watch e) ↔ steps.getLast?.bind (·.answer) = some (.failed e)) ∧
        (dispatched calls).length = a.report.counters.emitted ∧
        (∀ i, accepted i calls = dispatched calls) ∧
        (aborted = false ∧ (∀ l ∈ a.dispatcher.lanes, l.worker.isFinished = true) ∨
          aborted = true ∧ a.dispatcher.time = since + c.dispatch.shutdownGrace.toNat)) ∧
      ∀ (i : Nat) l, a.dispatcher.lanes[i]? = some l → a.report.sinks[i]? = some l.report ∧
        ∃ f, a.report.counters.emitted = l.report.stats.delivered + l.report.stats.droppedOldest +
            l.report.stats.droppedPermanent + l.report.abandoned + f ∧ f ≤ 1 ∧
          (f = 1 → aborted = true ∧ l.worker.isFinished = false ∧
            ∃ r, l.worker.inFlight = [r])) := by
  refine ⟨fun turns answer z hrun => ?_, ?_, ?_⟩
  · have hwatch : (new c fresh pid sinks).watch = .new c.source := rfl
    have hanswer := run_eq_answer (new c fresh pid sinks) turns
    obtain ⟨taken, aborted, a, hend, htaken, ha⟩ :=
      (Life.start : Life (new c fresh pid sinks) _ _ _ _).exists_ends_run turns
    rw [hrun] at hanswer hend ha
    rw [hwatch] at hanswer
    refine ⟨fun e he => ?_, fun hnone => ?_, taken, aborted, a, hend, htaken, ha⟩
    · rwa [he] at hanswer
    · rwa [hnone] at hanswer
  · intro asked taken calls a h l hmem
    obtain ⟨i, hl⟩ := List.getElem?_of_mem hmem
    exact (h.run.accounted hl).closed_eq.trans (h.any_closes_eq_false rfl i)
  · intro taken answer aborted a hend
    obtain ⟨error, since, calls, h, hanswer, hstopped⟩ := hend.exists_stopping
    refine ⟨⟨error, since, calls, h, ?_, ?_, h.exists_run, h.length_dispatched, h.accepted_eq,
      hstopped⟩, fun i l hl => ?_⟩
    · rintro rfl
      exact hanswer
    · rintro e rfl
      exact hanswer
    refine ⟨?_, _, h.emitted_eq hl, l.worker.length_inFlight_le, fun hone => ?_⟩
    · exact List.getElem?_map.trans (congrArg (Option.map Lane.report) hl)
    · -- a worker that holds a record has not finished, so not all have
      obtain ⟨r, hr⟩ := List.length_eq_one_iff.mp hone
      have hunfinished : l.worker.isFinished = false := by
        by_contra hfinished
        rw [Bool.not_eq_false] at hfinished
        rw [(h.run.of_isFinished hl hfinished).1] at hr
        cases hr
      refine ⟨?_, hunfinished, r, hr⟩
      rcases hstopped with ⟨-, hall⟩ | ⟨haborted, -⟩
      · rw [hall l (List.mem_of_getElem? hl)] at hunfinished
        cases hunfinished
      · exact haborted

/-! ### An agent whose sink hangs -/

/-- An agent that leaves nothing out, with a sink that never answers. -/
def beforeHung : Agent :=
  new { filters := { selfTraffic := false } } .nil 7 [("hung", [.hang])]

/-- What the agent meets. -/
def calm : Surroundings :=
  ⟨.still .empty fun _ => none, ⟨0, 1⟩, default, 0⟩

/-- An agent that gives up at the first failure answers that the table cannot be read. -/
example : ((new { source := { maxConsecutiveFailures := 1 } } .nil 7 []).run
    [⟨⟨false, false, .error .notFound⟩, calm, 0⟩]).1 =
      .error (.watch (.sustained (Conntrack.tablePath defaultProcRoot) 1 .notFound)) := rfl

/-- The connection becomes a record when it opens. -/
theorem exists_made_listed : ∃ r, beforeHung.made calm ⟨.opened, Pipeline.listed⟩ = some r := by
  generalize hobserved : (calm.observe beforeHung.resolver ⟨.opened, Pipeline.listed⟩).1 = o
  have hphase : o.transition.phase = .opened := by
    rw [← hobserved]
    rfl
  have hfates := beforeHung.pipeline.fates o
  rw [made, hobserved]
  generalize beforeHung.pipeline.process o = x at hfates ⊢
  cases hfates with
  | duplicate _ hdup =>
    have hnew := Correlator.isDuplicate_eq_false_of_remembered
      (Correlator.remembered_new {} o.hash) o.now
    exact absurd (hnew.symm.trans hdup) Bool.false_ne_true
  | openKept => exact ⟨_, rfl⟩
  | openDropped reason _ _ hverdict =>
    simp [Filter.verdict, beforeHung, new, Pipeline.new] at hverdict
  | closeSuppressed _ hphase' | closePaired _ hphase' | orphanKept hphase'
  | orphanDropped _ hphase' =>
    rw [hphase] at hphase'
    cases hphase'

/-- The watch finds the connection in the table. -/
theorem turn_listed : ((Conntrack.Watch.new {}).take Pipeline.row).turn ⟨false, false, .ok ""⟩ =
    (some (.transition ⟨.opened, Pipeline.listed⟩),
      { (Conntrack.Watch.new {}).take Pipeline.row with pending := [] }) := by
  have htransitions : Conntrack.Sample.empty.transitions
      (.ofEntries (Conntrack.Table.parse Pipeline.row).entries) = [⟨.opened, Pipeline.listed⟩] := by
    simp [Pipeline.parse_row, Conntrack.Sample.transitions, Conntrack.Sample.empty,
      Conntrack.Sample.ofEntries, Conntrack.Sample.firsts, Conntrack.Sample.opens,
      Conntrack.Sample.closesUnseen]
  have hpending : ((Conntrack.Watch.new {}).take Pipeline.row).pending =
      [⟨.opened, Pipeline.listed⟩] := htransitions
  unfold Conntrack.Watch.turn
  rw [hpending]
  rfl

/-- The agent makes a record of the connection, which the worker of its sink holds when it is cut
off. -/
theorem exists_ends_beforeHung : ∃ taken a l, Ends beforeHung taken (.ok a.report) true a ∧
    a.dispatcher.lanes[0]? = some l ∧ a.report.counters.emitted = 1 ∧
      l.report = ⟨"hung", {}, 0⟩ := by
  obtain ⟨r, hr⟩ := exists_made_listed
  have hread : Life beforeHung (.watching false) _ [] _ :=
    Life.start.read ⟨⟨false, false, .ok Pipeline.row⟩, calm, 0⟩ nofun (.of_turn rfl)
  obtain ⟨b, hmade⟩ := hread.exists_handle (t := ⟨⟨false, false, .ok ""⟩, calm, 0⟩) nofun
    (.of_turn turn_listed) hr
  obtain ⟨watch, hended⟩ := (hmade.event 0 1 rfl rfl).exists_finish lastTurn rfl
  have hcutOff := (hended.stop.close 0).pass 3000 (Nat.zero_le _)
  exact ⟨_, _, _, .cutOff hcutOff ⟨_, List.mem_singleton_self _, rfl⟩ rfl, rfl,
    hcutOff.length_dispatched.symm, rfl⟩

/-- The report of the sink accounts for no record, so its worker held the one that was made. -/
theorem inFlight_of_beforeHung : ∃ taken a l, Ends beforeHung taken (.ok a.report) true a ∧
    a.dispatcher.lanes[0]? = some l ∧ ∃ r, l.worker.inFlight = [r] := by
  obtain ⟨taken, a, l, hend, hl, hemitted, hreport⟩ := exists_ends_beforeHung
  obtain ⟨-, -, hends⟩ :=
    balance_of_ends { filters := { selfTraffic := false } } .nil 7 [("hung", [.hang])]
  obtain ⟨-, hlanes⟩ := hends _ _ _ _ hend
  obtain ⟨-, f, hsum, -, hheld⟩ := hlanes 0 l hl
  rw [hemitted, hreport] at hsum
  have hone : 1 = 0 + 0 + 0 + 0 + f := hsum
  exact ⟨taken, a, l, hend, hl, (hheld (by omega)).2.2⟩

end FlowAudit.Agent
