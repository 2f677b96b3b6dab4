import FlowAudit.Proofs.Delivery.Lockstep
import FlowAudit.Proofs.Delivery.Run

/-!
# No sink has an influence on another one

`Dispatcher.Performs` and `Dispatcher.ShutsDown` are the runs of a dispatcher on the virtual clock:
it is asked to dispatch records and to wait, and then shut down, while all events that are due
happen in any order of the lanes. The end of the grace period is one for all lanes, and the
dispatcher waits for all of them.

Still every lane ends as if it were alone, whatever the other ones are and in whatever order they
took their turns (`Performs.getElem?_lanes`, `ShutsDown.getElem?_lanes`). So a sink that reacts
alike in two runs with the same requests meets the same in both.
-/

namespace FlowAudit.Delivery

variable {α : Type}

/-- What a dispatcher is asked for. -/
inductive Request (α : Type) where
  | dispatch (a : α)
  | wait (duration : Nat)

/-- How long requests take. -/
def Request.duration : List (Request α) → Nat
  | [] => 0
  | .dispatch _ :: rest => duration rest
  | .wait n :: rest => n + duration rest

/-! ### A worker alone -/

namespace Worker

/-- A worker that does its part of requests, the first of which is made at time `t`. -/
def perform (t : Nat) (w : Worker α) : List (Request α) → Worker α
  | [] => w
  | .dispatch a :: rest => (w.push a).perform t rest
  | .wait n :: rest => (w.waitUntil (t + n)).perform (t + n) rest

theorem attempts_prefix_perform (t : Nat) (w : Worker α) (requests : List (Request α)) :
    w.attempts <+: (w.perform t requests).attempts := by
  induction requests generalizing t w with
  | nil => exact List.prefix_refl _
  | cons r rest ih =>
    cases r with
    | dispatch a =>
      have hrest := ih t (w.push a)
      rwa [attempts_push] at hrest
    | wait n =>
      exact (attempts_prefix_advance w (t + n + 1)).trans (ih (t + n) (w.waitUntil (t + n)))

theorem attempts_prefix_drain (settings : DeliverySettings) (t : Nat) (w : Worker α) :
    w.attempts <+: (Dispatcher.drain settings t w).attempts :=
  attempts_prefix_advance w.stop.close _

namespace Lockstep

variable {script₁ script₂ : List Reaction} {w₁ w₂ : Worker α}
  {attempts₁ attempts₂ : List (Attempt α)}

theorem waitUntil {t : Nat} (h : Lockstep script₁ script₂ w₁ w₂)
    (hreact : ReactAlike script₁ script₂ attempts₁ attempts₂)
    (h₁ : (w₁.waitUntil t).attempts <+: attempts₁) (h₂ : (w₂.waitUntil t).attempts <+: attempts₂) :
    Lockstep script₁ script₂ (w₁.waitUntil t) (w₂.waitUntil t) := by
  obtain ⟨w, hw₁, hw₂⟩ := h.advance hreact h₁ h₂
  refine ⟨{ w with time := t }, ?_, ?_⟩
  · rw [Worker.waitUntil, hw₁]
    rfl
  · rw [Worker.waitUntil, hw₂]
    rfl

theorem perform {t : Nat} {requests : List (Request α)} (h : Lockstep script₁ script₂ w₁ w₂)
    (hreact : ReactAlike script₁ script₂ attempts₁ attempts₂)
    (h₁ : (w₁.perform t requests).attempts <+: attempts₁)
    (h₂ : (w₂.perform t requests).attempts <+: attempts₂) :
    Lockstep script₁ script₂ (w₁.perform t requests) (w₂.perform t requests) := by
  induction requests generalizing t w₁ w₂ with
  | nil => exact h
  | cons r rest ih =>
    cases r with
    | dispatch a => exact ih (h.push a) h₁ h₂
    | wait n =>
      refine ih (h.waitUntil hreact ?_ ?_) h₁ h₂
      · exact (attempts_prefix_perform _ _ _).trans h₁
      · exact (attempts_prefix_perform _ _ _).trans h₂

theorem drain {settings : DeliverySettings} {t : Nat} (h : Lockstep script₁ script₂ w₁ w₂)
    (hreact : ReactAlike script₁ script₂ attempts₁ attempts₂)
    (h₁ : (Dispatcher.drain settings t w₁).attempts <+: attempts₁)
    (h₂ : (Dispatcher.drain settings t w₂).attempts <+: attempts₂) :
    Lockstep script₁ script₂ (Dispatcher.drain settings t w₁) (Dispatcher.drain settings t w₂) := by
  obtain ⟨w, rfl, rfl⟩ := h
  have hclosed : Lockstep script₁ script₂
      (w.withScript (script₁.drop w.attempts.length)).stop.close
      (w.withScript (script₂.drop w.attempts.length)).stop.close :=
    ⟨w.stop.close, rfl, rfl⟩
  exact hclosed.advance hreact h₁ h₂

end Lockstep

end Worker

/-! ### All lanes together -/

namespace Dispatcher

variable {d d' : Dispatcher α} {requests : List (Request α)} {i : Nat}

/-- A dispatcher does what it is asked for. While it waits, all events happen that are due until
then, in any order of the lanes. -/
inductive Performs : Dispatcher α → List (Request α) → Dispatcher α → Prop
  | nil (d : Dispatcher α) : Performs d [] d
  | dispatch {d d' : Dispatcher α} {rest : List (Request α)} (a : α)
    (hrest : Performs (d.dispatch a) rest d') : Performs d (.dispatch a :: rest) d'
  | wait {d d₁ d' : Dispatcher α} {rest : List (Request α)} (n : Nat)
    (hsettles : Settles (d.time + n + 1) d d₁)
    (hrest : Performs { d₁.mapWorkers fun w => { w with time := d.time + n } with
      time := d.time + n } rest d') :
    Performs d (.wait n :: rest) d'

/-- A dispatcher is shut down: all lanes are asked to stop and their queues closed, and all events
happen that are due before the end of the grace period, in any order of the lanes. If all workers
finish it ends with the last of them, and if not those that are left are cut off. -/
inductive ShutsDown (d : Dispatcher α) : Dispatcher α → Prop
  | drained {d' : Dispatcher α}
    (hsettles : Settles (d.time + d.settings.shutdownGrace.toNat)
      ((d.mapWorkers (·.stop)).mapWorkers (·.close)) d')
    (hall : ∀ l ∈ d'.lanes, l.worker.isFinished = true) :
    ShutsDown d { d' with time := d'.lanes.foldl (fun t l => max t l.worker.time) d.time }
  | cutOff {d' : Dispatcher α}
    (hsettles : Settles (d.time + d.settings.shutdownGrace.toNat)
      ((d.mapWorkers (·.stop)).mapWorkers (·.close)) d')
    (hany : ∃ l ∈ d'.lanes, l.worker.isFinished = false) :
    ShutsDown d { d' with time := d.time + d.settings.shutdownGrace.toNat }

namespace Performs

theorem settings_eq (h : Performs d requests d') : d'.settings = d.settings := by
  induction h with
  | nil => rfl
  | dispatch _ _ ih => exact ih
  | wait _ hsettles _ ih =>
    rw [ih, hsettles.eq]
    rfl

theorem time_eq (h : Performs d requests d') : d'.time = d.time + Request.duration requests := by
  induction h with
  | nil => rfl
  | dispatch _ _ ih => exact ih
  | wait n _ _ ih => rw [ih, Request.duration, Nat.add_assoc]

/-- Every lane does its part as if it were alone. -/
theorem getElem?_lanes (h : Performs d requests d') (i : Nat) :
    d'.lanes[i]? = d.lanes[i]?.map (·.map (·.perform d.time requests)) := by
  induction h with
  | nil d =>
    cases d.lanes[i]? with
    | none => rfl
    | some l => rfl
  | @dispatch d d' rest a _ ih =>
    rw [ih, Dispatcher.dispatch, getElem?_mapWorkers, Option.map_map]
    rfl
  | @wait d d₁ d' rest n hsettles _ ih =>
    rw [ih, hsettles.eq]
    show Option.map _ ((mapWorkers _ _).lanes[i]?) = _
    rw [getElem?_mapWorkers, getElem?_mapWorkers, Option.map_map, Option.map_map]
    rfl

end Performs

/-- Whatever is asked for can be done. -/
theorem exists_performs (d : Dispatcher α) (requests : List (Request α)) :
    ∃ d', Performs d requests d' := by
  induction requests generalizing d with
  | nil => exact ⟨d, .nil d⟩
  | cons r rest ih =>
    cases r with
    | dispatch a =>
      obtain ⟨d', hrest⟩ := ih (d.dispatch a)
      exact ⟨d', .dispatch a hrest⟩
    | wait n =>
      obtain ⟨d', hrest⟩ := ih (d.wait n)
      rw [wait_eq] at hrest
      exact ⟨d', .wait n (settles_iff.mpr rfl) hrest⟩

/-- The lanes end as if each were shut down alone, also if some finish and others are cut off. -/
theorem ShutsDown.getElem?_lanes (h : ShutsDown d d') (i : Nat) :
    d'.lanes[i]? = d.lanes[i]?.map (·.map (drain d.settings d.time)) := by
  rw [← getElem?_mapWorkers, mapWorkers_drain]
  cases h with
  | drained hsettles => rw [hsettles.eq]
  | cutOff hsettles => rw [hsettles.eq]

/-- A dispatcher that is shut down ends in one way only. -/
theorem shutsDown_iff : ShutsDown d d' ↔ d' = d.shutdown := by
  unfold shutdown
  dsimp only
  constructor
  · intro h
    cases h with
    | drained hsettles hall =>
      obtain rfl := hsettles.eq
      rw [← mapWorkers_drain] at hall ⊢
      rw [if_pos (List.all_eq_true.mpr hall)]
    | cutOff hsettles hany =>
      obtain rfl := hsettles.eq
      rw [← mapWorkers_drain] at hany ⊢
      obtain ⟨l, hmem, hl⟩ := hany
      rw [if_neg]
      intro hall
      rw [List.all_eq_true.mp hall l hmem] at hl
      cases hl
  · rintro rfl
    have hsettles := settles_iff.mpr (mapWorkers_drain d)
    split
    · rename_i hall
      exact .drained hsettles (List.all_eq_true.mp hall)
    · rename_i hall
      refine .cutOff hsettles ?_
      obtain ⟨l, hmem, hl⟩ := List.all_eq_false.mp (by simpa using hall)
      exact ⟨l, hmem, by simpa using hl⟩

/-- Where a lane ends follows from the requests and its own sink. -/
theorem worker_eq_of_shutsDown {settings : DeliverySettings}
    {sinks : List (String × List Reaction)} {e : Dispatcher α} {sink : String × List Reaction}
    {l : Lane α} (h : Performs (new settings sinks) requests d) (hstop : ShutsDown d e)
    (hsink : sinks[i]? = some sink) (hl : e.lanes[i]? = some l) :
    l.worker = drain settings (Request.duration requests)
      ((Worker.new settings sink.2).perform 0 requests) := by
  have hnew : (new settings sinks : Dispatcher α).lanes[i]? =
      some ⟨sink.1, .new settings sink.2⟩ := by
    rw [show (new settings sinks : Dispatcher α).lanes[i]? = sinks[i]?.map _ from List.getElem?_map,
      hsink]
    rfl
  have htime : d.time = Request.duration requests := by
    rw [h.time_eq]
    exact Nat.zero_add _
  rw [hstop.getElem?_lanes, h.getElem?_lanes, hnew, h.settings_eq, htime] at hl
  rw [← Option.some.inj hl]
  rfl

/-- Two runs with the same settings, requests and time of the shutdown, whose sinks are otherwise
arbitrary: a sink that reacts alike to the same attempts meets the same attempts at the same times,
is closed at the same time or not at all, and has the same numbers in its report. -/
theorem lane_eq_of_reactAlike (settings : DeliverySettings)
    {sinks₁ sinks₂ : List (String × List Reaction)} {requests : List (Request α)}
    {d₁ d₂ e₁ e₂ : Dispatcher α} (h₁ : Performs (new settings sinks₁) requests d₁)
    (h₂ : Performs (new settings sinks₂) requests d₂) (hstop₁ : ShutsDown d₁ e₁)
    (hstop₂ : ShutsDown d₂ e₂) {i₁ i₂ : Nat} {sink₁ sink₂ : String × List Reaction}
    {l₁ l₂ : Lane α} (hsink₁ : sinks₁[i₁]? = some sink₁) (hsink₂ : sinks₂[i₂]? = some sink₂)
    (hl₁ : e₁.lanes[i₁]? = some l₁) (hl₂ : e₂.lanes[i₂]? = some l₂)
    (hreact : Worker.ReactAlike sink₁.2 sink₂.2 l₁.worker.attempts l₂.worker.attempts) :
    l₁.worker.attempts = l₂.worker.attempts ∧ l₁.worker.closedAt = l₂.worker.closedAt ∧
      l₁.report.stats = l₂.report.stats ∧ l₁.report.abandoned = l₂.report.abandoned := by
  have hw₁ := worker_eq_of_shutsDown h₁ hstop₁ hsink₁ hl₁
  have hw₂ := worker_eq_of_shutsDown h₂ hstop₂ hsink₂ hl₂
  -- what the workers attempt while they perform is what they attempt in all, up to a point
  have hend₁ : (drain settings (Request.duration requests)
      ((Worker.new settings sink₁.2).perform 0 requests)).attempts <+: l₁.worker.attempts :=
    hw₁ ▸ List.prefix_refl _
  have hend₂ : (drain settings (Request.duration requests)
      ((Worker.new settings sink₂.2).perform 0 requests)).attempts <+: l₂.worker.attempts :=
    hw₂ ▸ List.prefix_refl _
  have hperform := (Worker.Lockstep.new settings sink₁.2 sink₂.2).perform hreact
    ((Worker.attempts_prefix_drain _ _ _).trans hend₁)
    ((Worker.attempts_prefix_drain _ _ _).trans hend₂)
  obtain ⟨w, hl₁, hl₂⟩ := hperform.drain hreact hend₁ hend₂
  rw [← hw₁] at hl₁
  rw [← hw₂] at hl₂
  rw [Lane.report, Lane.report, hl₁, hl₂]
  exact ⟨rfl, rfl, rfl, rfl⟩

/-! ### A sink beside one that hangs -/

/-- What becomes of a dispatcher with these sinks that is sent two records. -/
def afterTwo (sinks : List (String × List Reaction)) : Dispatcher Nat :=
  ((((new {} sinks).dispatch 1).wait 10).dispatch 2).shutdown

theorem exists_performs_afterTwo (sinks : List (String × List Reaction)) :
    ∃ d, Performs (new {} sinks) [.dispatch 1, .wait 10, .dispatch 2] d ∧
      ShutsDown d (afterTwo sinks) := by
  refine ⟨_, .dispatch 1 (.wait 10 (settles_iff.mpr rfl) (.dispatch 2 (.nil _))), ?_⟩
  rw [shutsDown_iff, afterTwo, wait_eq]

/-- A sink that answers late meets the same beside a sink that hangs as it does alone. -/
theorem attempts_beside_hung :
    ∃ l₁ l₂, (afterTwo [("late", [.answer .retryLater 3]), ("hung", [.hang])]).lanes[0]? = some l₁ ∧
      (afterTwo [("late", [.answer .retryLater 3])]).lanes[0]? = some l₂ ∧
      l₁.worker.attempts = l₂.worker.attempts ∧ l₁.report.stats = l₂.report.stats := by
  obtain ⟨d₁, h₁, hstop₁⟩ :=
    exists_performs_afterTwo [("late", [.answer .retryLater 3]), ("hung", [.hang])]
  obtain ⟨d₂, h₂, hstop₂⟩ := exists_performs_afterTwo [("late", [.answer .retryLater 3])]
  have hl₁ := hstop₁.getElem?_lanes 0
  have hl₂ := hstop₂.getElem?_lanes 0
  rw [h₁.getElem?_lanes] at hl₁
  rw [h₂.getElem?_lanes] at hl₂
  have hsink (others : List (String × List Reaction)) :
      (("late", [.answer .retryLater 3]) :: others)[0]? = some ("late", [.answer .retryLater 3]) :=
    rfl
  obtain ⟨hattempts, -, hstats, -⟩ := lane_eq_of_reactAlike {} h₁ h₂ hstop₁ hstop₂
    (hsink _) (hsink _) hl₁ hl₂ fun _ _ _ _ => rfl
  exact ⟨_, _, hl₁, hl₂, hattempts, hstats⟩

end Dispatcher

end FlowAudit.Delivery
