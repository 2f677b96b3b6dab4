import FlowAudit.Agent
import FlowAudit.Proofs.Conntrack.Run
import FlowAudit.Proofs.Delivery.Run

/-!
# The life of an agent

An agent has several parties. One of them watches the table and handles the transitions, the workers
of the sinks go on by themselves, and the agent may be asked to stop at any time. `Agent.Life` is
what can happen to them, in any order: whoever watches notices the request to stop, or fails, or
breaks down, whenever it takes a turn, and the sinks are stopped only when it has ended, whatever
the reason is. `Agent.Ends` is a life to its end, with what the agent answers then.

A life is told with the turns that were taken in it. They alone decide whether the watch goes on,
ends or gives up (`Agent.Life.exists_run`). The dispatcher of an agent makes a run
(`Agent.Life.run`), so what holds of all runs of a dispatcher holds of it.

An agent that is given turns takes them until its watch ends, and has one of these lives
(`Agent.Life.exists_ends_run`). It answers the error with which the watch gave up in one of the
turns, or else its report (`Agent.run_eq_answer`).
-/

namespace FlowAudit

/-- The error with which a watch gives up over a sequence of rounds, if it does and has not ended
before. -/
def Conntrack.Watch.gaveUp? (w : Watch) : List Round → Option WatchError
  | [] => none
  | r :: rest =>
    match w.turn r with
    | (some (.failed error), _) => some error
    | (some .ended, _) => none
    | (_, w) => w.gaveUp? rest

namespace Agent

open Conntrack (Watch WatchError)
open Delivery (Dispatcher Reaction Lane Worker)
open Delivery.Dispatcher (Call Settles settles_iff wait_eq mapWorkers_drain)

variable {c : Configuration} {fresh : Uuid} {pid : UInt32} {sinks : List (String × List Reaction)}

/-! ### Starting -/

/-- The sinks in use are those that were made of targets, in the order of these. -/
theorem eq_of_connectSinks {connect : Connect} {usable : List Sink}
    (h : connectSinks c connect = .ok usable) :
    usable = c.sinks.filterMap fun target => (connect target).toOption := by
  unfold connectSinks at h
  dsimp only at h
  split at h
  · cases h
  · exact (Except.ok.inj h).symm

theorem mem_of_connectSinks {connect : Connect} {usable : List Sink} {s : Sink}
    (h : connectSinks c connect = .ok usable) :
    s ∈ usable ↔ ∃ t ∈ c.sinks, connect t = .ok s := by
  rw [eq_of_connectSinks h, List.mem_filterMap]
  refine exists_congr fun t => and_congr_right fun _ => ?_
  cases connect t <;> simp [Except.toOption]

/-! ### What may happen -/

/-- How far an agent has come. -/
inductive Stage where
  /-- The table is watched; the agent was asked to stop or not. -/
  | watching (asked : Bool)
  /-- The watch has ended, with an error or without, and nothing more will be handled. -/
  | ended (error : Option AgentError)
  /-- The sinks were asked to stop at the given time. -/
  | stopping (error : Option AgentError) (since : Nat)

/-- When the sinks were asked to stop. -/
def Stage.stopped : Stage → Option Nat
  | .watching _ => none
  | .ended _ => none
  | .stopping _ since => some since

/-- Whether a turn shows that the agent was asked to stop. -/
def Turn.asks (t : Turn) : Bool :=
  t.round.stopBefore || t.round.stopWaiting

/-- The record that a transition becomes, if it becomes one. -/
def made (a : Agent) (around : Surroundings) (t : Transition) : Option Record :=
  (a.pipeline.process (around.observe a.resolver t).1).1

/-- What an agent answers when its sinks have stopped. -/
def answer (a : Agent) : Option AgentError → Except AgentError AgentReport
  | none => .ok a.report
  | some error => .error error

/-- The agent with other lanes of its sinks. -/
def withDispatcher (a : Agent) (dispatcher : Dispatcher Record) : Agent :=
  { a with dispatcher }

/-- A life of an agent, with the turns taken by whoever watches and with what was done to the queues
of the sinks. How long the sinks work in between is not a matter of the turns here. -/
inductive Life (start : Agent) : Stage → List Turn → List (Call Record) → Agent → Prop
  | start : Life start (.watching false) [] [] start
  /-- The agent is asked to stop. -/
  | ask {taken : List Turn} {calls : List (Call Record)} {a : Agent}
    (h : Life start (.watching false) taken calls a) :
    Life start (.watching true) taken calls a
  /-- The watch reads the table. -/
  | read {asked : Bool} {taken : List Turn} {calls : List (Call Record)} {a : Agent} {watch : Watch}
    (t : Turn) (h : Life start (.watching asked) taken calls a)
    (hasks : t.asks = true → asked = true) (hturn : a.watch.Turns t.round none watch) :
    Life start (.watching asked) (taken ++ [t]) calls { a with watch }
  /-- A transition is handled, and its record added to all queues if it becomes one. -/
  | handle {asked : Bool} {taken : List Turn} {calls : List (Call Record)} {a : Agent}
    {watch : Watch} {transition : Transition} (t : Turn)
    (h : Life start (.watching asked) taken calls a) (hasks : t.asks = true → asked = true)
    (hturn : a.watch.Turns t.round (some (.transition transition)) watch) :
    Life start (.watching asked) (taken ++ [t])
      (calls ++ (a.made t.around transition).toList.map .dispatch)
      (({ a with watch } : Agent).handle t.around transition)
  /-- The watch ends. -/
  | finish {asked : Bool} {taken : List Turn} {calls : List (Call Record)} {a : Agent}
    {watch : Watch} (t : Turn) (h : Life start (.watching asked) taken calls a)
    (hasks : t.asks = true → asked = true) (hturn : a.watch.Turns t.round (some .ended) watch) :
    Life start (.ended none) (taken ++ [t]) calls { a with watch }
  /-- The watch fails for good. -/
  | fail {asked : Bool} {taken : List Turn} {calls : List (Call Record)} {a : Agent} {watch : Watch}
    {error : WatchError} (t : Turn) (h : Life start (.watching asked) taken calls a)
    (hasks : t.asks = true → asked = true)
    (hturn : a.watch.Turns t.round (some (.failed error)) watch) :
    Life start (.ended (some (.watch error))) (taken ++ [t]) calls { a with watch }
  /-- Whoever watches breaks down. -/
  | breakDown {asked : Bool} {taken : List Turn} {calls : List (Call Record)} {a : Agent}
    (cause : String) (h : Life start (.watching asked) taken calls a) :
    Life start (.ended (some (.brokenOff cause))) taken calls a
  /-- The sinks are asked to stop. -/
  | stop {error : Option AgentError} {taken : List Turn} {calls : List (Call Record)} {a : Agent}
    (h : Life start (.ended error) taken calls a) :
    Life start (.stopping error a.dispatcher.time) taken calls
      (a.withDispatcher (a.dispatcher.mapWorkers (·.stop)))
  | close {error : Option AgentError} {since : Nat} {taken : List Turn} {calls : List (Call Record)}
    {a : Agent} (i : Nat) (h : Life start (.stopping error since) taken calls a) :
    Life start (.stopping error since) taken (calls ++ [.close i])
      (a.withDispatcher (a.dispatcher.mapLane i (·.close)))
  /-- A worker does something by itself. -/
  | event {stage : Stage} {taken : List Turn} {calls : List (Call Record)} {a : Agent}
    {l : Lane Record} {w : Worker Record} (i bound : Nat) (h : Life start stage taken calls a)
    (hl : a.dispatcher.lanes[i]? = some l) (hstep : l.worker.step? bound = some w) :
    Life start stage taken calls (a.withDispatcher (a.dispatcher.mapLane i fun _ => w))
  | clock {stage : Stage} {taken : List Turn} {calls : List (Call Record)} {a : Agent} (t : Nat)
    (h : Life start stage taken calls a) :
    Life start stage taken calls
      (a.withDispatcher (a.dispatcher.mapWorkers fun w => { w with time := t }))
  | pass {stage : Stage} {taken : List Turn} {calls : List (Call Record)} {a : Agent} (t : Nat)
    (h : Life start stage taken calls a) (ht : a.dispatcher.time ≤ t) :
    Life start stage taken calls (a.withDispatcher { a.dispatcher with time := t })

/-- A life to its end: all workers have finished, or some have not at the end of the grace period
and are cut off. -/
inductive Ends (start : Agent) : List Turn → Except AgentError AgentReport → Bool → Agent → Prop
  | drained {error : Option AgentError} {since : Nat} {taken : List Turn}
    {calls : List (Call Record)} {a : Agent} (h : Life start (.stopping error since) taken calls a)
    (hall : ∀ l ∈ a.dispatcher.lanes, l.worker.isFinished = true) :
    Ends start taken (a.answer error) false a
  | cutOff {error : Option AgentError} {since : Nat} {taken : List Turn}
    {calls : List (Call Record)} {a : Agent} (h : Life start (.stopping error since) taken calls a)
    (hany : ∃ l ∈ a.dispatcher.lanes, l.worker.isFinished = false)
    (htime : a.dispatcher.time = since + a.dispatcher.settings.shutdownGrace.toNat) :
    Ends start taken (a.answer error) true a

/-! ### Handling a transition -/

/-- What a transition becomes does not depend on the watch. -/
theorem made_watch (a : Agent) (watch : Watch) (around : Surroundings) (t : Transition) :
    ({ a with watch } : Agent).made around t = a.made around t := rfl

theorem dispatcher_handle (a : Agent) (around : Surroundings) (t : Transition) :
    (a.handle around t).dispatcher = match a.made around t with
      | some r => a.dispatcher.dispatch r
      | none => a.dispatcher := rfl

theorem pipeline_handle (a : Agent) (around : Surroundings) (t : Transition) :
    (a.handle around t).pipeline =
      (a.pipeline.process (around.observe a.resolver t).1).2 := rfl

/-! ### The watch of an agent -/

variable {start a : Agent} {stage : Stage} {taken : List Turn} {calls : List (Call Record)}

/-- How far an agent has come shows in the last answer of its watch. -/
def Stage.Shows (last : Option Conntrack.Answer) : Stage → Prop
  | .watching _ => last ≠ some .ended ∧ ∀ e, last ≠ some (.failed e)
  | .ended error | .stopping error _ =>
    (error = none ↔ last = some .ended) ∧
      ∀ e, error = some (.watch e) ↔ last = some (.failed e)

/-- The turns taken in a life are a run of the watch, and its last answer shows whether the watch
goes on, has ended or gave up. -/
theorem Life.exists_run (h : Life start stage taken calls a) :
    ∃ steps, start.watch.Run (taken.map (·.round)) steps a.watch ∧
      stage.Shows (steps.getLast?.bind (·.answer)) := by
  induction h with
  | start => exact ⟨[], .nil _, nofun, nofun⟩
  | read t _ _ hturn ih | handle t _ _ hturn ih | finish t _ _ hturn ih | fail t _ _ hturn ih =>
    obtain ⟨steps, hrun, -⟩ := ih
    refine ⟨_, by rw [List.map_append]; exact hrun.append (.cons hturn (.nil _)), ?_⟩
    simp [Stage.Shows]
  | breakDown cause _ ih =>
    -- the watch had neither ended nor given up, so the error is none of its own
    obtain ⟨steps, hrun, hended, hfailed⟩ := ih
    exact ⟨steps, hrun, iff_of_false nofun hended, fun e => iff_of_false nofun (hfailed e)⟩
  | ask _ ih | stop _ ih | close _ _ ih | event _ _ _ _ _ ih | clock _ _ ih | pass _ _ _ ih =>
    exact ih

/-! ### The dispatcher of an agent -/

/-- The dispatcher of an agent makes a run of its own. -/
theorem Life.run (h : Life (new c fresh pid sinks) stage taken calls a) :
    Dispatcher.Run c.dispatch sinks calls stage.stopped a.dispatcher := by
  induction h with
  | start => exact .new
  | ask _ ih | read _ _ _ _ ih | finish _ _ _ _ ih | fail _ _ _ _ ih | breakDown _ _ ih => exact ih
  | @handle _ _ calls a watch transition t _ _ _ ih =>
    rw [dispatcher_handle, made_watch a watch]
    cases a.made t.around transition with
    | none => simpa using ih
    | some record => exact ih.dispatch record
  | stop _ ih => exact ih.stop
  | close i _ ih => exact ih.close i
  | event i bound _ hl hstep ih => exact ih.event i bound hl hstep
  | clock t _ ih => exact ih.clock t
  | pass t _ ht ih => exact ih.pass t ht

/-! ### An agent that takes its turns -/

/-- An agent answers the error with which its watch gives up over the rounds of its turns, or else
its report. -/
theorem run_eq_answer (a : Agent) (turns : List Turn) :
    (a.run turns).1 =
      (a.run turns).2.answer ((a.watch.gaveUp? (turns.map (·.round))).map .watch) := by
  induction turns generalizing a with
  | nil => rfl
  | cons t rest ih =>
    unfold run turn
    rw [List.map_cons, Watch.gaveUp?]
    rcases hturn : a.watch.turn t.round with ⟨answer, watch⟩
    match answer with
    | none => exact ih _
    | some (.transition transition) => exact ih _
    | some .ended => rfl
    | some (.failed error) => rfl

namespace Life

/-- Whatever the workers do by themselves is part of a life. -/
theorem settles {bound : Nat} {d d' : Dispatcher Record}
    (h : Life start stage taken calls (a.withDispatcher d)) (hsettles : Settles bound d d') :
    Life start stage taken calls (a.withDispatcher d') := by
  induction hsettles with
  | quiet => exact h
  | event i hl hstep _ ih => exact ih (h.event i _ hl hstep)

theorem wait (h : Life start stage taken calls a) (duration : Nat) :
    Life start stage taken calls (a.withDispatcher (a.dispatcher.wait duration)) := by
  have hsettles : Settles (a.dispatcher.time + duration + 1) a.dispatcher _ := settles_iff.mpr rfl
  have hclock := (settles (a := a) h hsettles).clock (a.dispatcher.time + duration)
  rw [wait_eq]
  exact hclock.pass (a.dispatcher.time + duration) (Nat.le_add_right _ _)

/-- The queues are closed one by one. -/
theorem closeFirst {error : Option AgentError} {since : Nat}
    (h : Life start (.stopping error since) taken calls a) (n : Nat) :
    Life start (.stopping error since) taken (calls ++ (List.range n).map .close)
      (a.withDispatcher (a.dispatcher.closeFirst n)) := by
  induction n with
  | zero =>
    rw [Dispatcher.closeFirst_zero, List.range_zero, List.map_nil, List.append_nil]
    exact h
  | succ n ih =>
    rw [List.range_succ, List.map_append, List.map_singleton, ← List.append_assoc,
      Dispatcher.closeFirst_succ]
    exact ih.close n

/-- The sinks of an agent that has nothing more to handle stop: their workers finish, or are cut
off. -/
theorem shutdown {error : Option AgentError} (h : Life start (.ended error) taken calls a) :
    ∃ aborted, Ends start taken (a.shutdown.answer error) aborted a.shutdown := by
  have hclosed := h.stop.closeFirst (a.dispatcher.mapWorkers (·.stop)).lanes.length
  have hqueues : (a.withDispatcher (a.dispatcher.mapWorkers (·.stop))).dispatcher.closeFirst
      (a.dispatcher.mapWorkers (·.stop)).lanes.length =
        (a.dispatcher.mapWorkers (·.stop)).mapWorkers (·.close) :=
    Dispatcher.closeFirst_length _
  rw [hqueues] at hclosed
  have hdrained := hclosed.settles (settles_iff.mpr (mapWorkers_drain a.dispatcher))
  unfold Agent.shutdown Dispatcher.shutdown
  cases hall : (a.dispatcher.mapWorkers (Dispatcher.drain a.dispatcher.settings
      a.dispatcher.time)).lanes.all (·.worker.isFinished) with
  | true =>
    simp only [hall, if_true]
    exact ⟨false, .drained (hdrained.pass _ (Dispatcher.le_foldl_max _ _))
      (List.all_eq_true.mp hall)⟩
  | false =>
    simp only [hall, if_false, Bool.false_eq_true]
    refine ⟨true, .cutOff (hdrained.pass _ (Nat.le_add_right _ _)) ?_ rfl⟩
    obtain ⟨l, hmem, hl⟩ := List.all_eq_false.mp hall
    exact ⟨l, hmem, by simpa using hl⟩

/-- A transition is handled that becomes a record, which is added to all queues. -/
theorem exists_handle {asked : Bool} {t : Turn} {transition : Transition} {watch : Watch}
    {record : Record} (h : Life start (.watching asked) taken calls a)
    (hasks : t.asks = true → asked = true)
    (hturn : a.watch.Turns t.round (some (.transition transition)) watch)
    (hmade : a.made t.around transition = some record) :
    ∃ b : Agent, Life start (.watching asked) (taken ++ [t]) (calls ++ [.dispatch record])
      (b.withDispatcher (a.dispatcher.dispatch record)) := by
  have hlife := h.handle t hasks hturn
  have hdispatcher : (({ a with watch } : Agent).handle t.around transition).dispatcher =
      a.dispatcher.dispatch record := by
    rw [dispatcher_handle, made_watch a watch, hmade]
  rw [hmade] at hlife
  refine ⟨({ a with watch } : Agent).handle t.around transition, ?_⟩
  rw [← hdispatcher]
  exact hlife

/-- However long it has lived, an agent can be asked to stop. -/
theorem asked {asked : Bool} (h : Life start (.watching asked) taken calls a) :
    Life start (.watching true) taken calls a := by
  cases asked with
  | true => exact h
  | false => exact h.ask

/-- The watch of an agent that is asked to stop ends. -/
theorem exists_finish {asked : Bool} (h : Life start (.watching asked) taken calls a) (last : Turn)
    (hstop : last.round.stopBefore = true) :
    ∃ watch, Life start (.ended none) (taken ++ [last]) calls { a with watch } := by
  have hturn : a.watch.turn last.round = (some .ended, (a.watch.turn last.round).2) := by
    unfold Watch.turn
    cases a.watch.finished with
    | true => rfl
    | false => simp [hstop]
  exact ⟨_, h.asked.finish last (fun _ => rfl) (.of_turn hturn)⟩

end Life

/-- What an agent meets that is asked to stop, on a host where there is nothing. -/
def lastTurn : Turn :=
  ⟨⟨true, false, .ok ""⟩, ⟨.still .empty fun _ => none, .nil, default, 0⟩, 0⟩

/-- An agent that is given turns takes them up to the one in which its watch ends or gives up; if
there is none it takes them all, and one more in which it is asked to stop. This and the waiting in
between are part of its life, and it ends as `Agent.run` does. -/
theorem Life.exists_ends_run {asked : Bool} (h : Life start (.watching asked) taken calls a)
    (turns : List Turn) :
    ∃ more aborted e, Ends start (taken ++ more) (a.run turns).1 aborted e ∧
      (more <+: turns ∨ ∃ last, last.round.stopBefore = true ∧ more = turns ++ [last]) ∧
      e.pipeline = (a.run turns).2.pipeline ∧ e.dispatcher = (a.run turns).2.dispatcher := by
  induction turns generalizing a asked taken calls with
  | nil =>
    -- `Agent.run` ends where its turns do, as it does in a life in which it is asked to stop
    obtain ⟨watch, hended⟩ := h.exists_finish lastTurn rfl
    obtain ⟨aborted, hend⟩ := hended.shutdown
    exact ⟨_, aborted, _, hend, .inr ⟨lastTurn, rfl, rfl⟩, rfl, rfl⟩
  | cons t rest ih =>
    have hone : [t] <+: t :: rest := ⟨rest, rfl⟩
    have hmore {more : List Turn}
        (h : more <+: rest ∨ ∃ last, last.round.stopBefore = true ∧ more = rest ++ [last]) :
        t :: more <+: t :: rest ∨
          ∃ last, last.round.stopBefore = true ∧ t :: more = t :: rest ++ [last] := by
      rcases h with hprefix | ⟨last, hstop, rfl⟩
      · exact .inl (List.prefix_cons_inj t |>.mpr hprefix)
      · exact .inr ⟨last, hstop, rfl⟩
    unfold Agent.run Agent.turn
    rcases hturn : a.watch.turn t.round with ⟨answer, watch⟩
    have hturns := Watch.Turns.of_turn hturn
    match answer with
    | none =>
      obtain ⟨more, aborted, e, hend, htaken, he⟩ :=
        ih ((h.asked.read t (fun _ => rfl) hturns).wait t.elapsed)
      rw [List.append_assoc] at hend
      exact ⟨t :: more, aborted, e, hend, hmore htaken, he⟩
    | some (.transition transition) =>
      obtain ⟨more, aborted, e, hend, htaken, he⟩ :=
        ih ((h.asked.handle t (fun _ => rfl) hturns).wait t.elapsed)
      rw [List.append_assoc] at hend
      exact ⟨t :: more, aborted, e, hend, hmore htaken, he⟩
    | some .ended =>
      obtain ⟨aborted, hend⟩ := (h.asked.finish t (fun _ => rfl) hturns).shutdown
      exact ⟨[t], aborted, _, hend, .inl hone, rfl, rfl⟩
    | some (.failed error) =>
      obtain ⟨aborted, hend⟩ := (h.asked.fail t (fun _ => rfl) hturns).shutdown
      exact ⟨[t], aborted, _, hend, .inl hone, rfl, rfl⟩

end Agent

end FlowAudit
