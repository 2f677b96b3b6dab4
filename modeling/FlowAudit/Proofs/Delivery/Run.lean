import Mathlib.Data.List.Basic
import FlowAudit.Proofs.Delivery.Event

/-!
# Runs of a dispatcher

The lanes of a dispatcher go on side by side. `Dispatcher.Settles` lets all events happen that are
due before a point in time, in any order of the lanes. Whatever the order is, every lane ends as if
it were alone (`Dispatcher.settles_iff`): the events of a lane depend on its own worker only.

`Dispatcher.Run` is what can happen to a dispatcher at all: records are dispatched, it is asked to
stop and its queues are closed one by one, while the events of the lanes happen in between at any
time. In particular a dispatcher that waits and is shut down runs so (`Run.wait`, `Run.shutdown`).
-/

namespace FlowAudit.Delivery

variable {α : Type}

namespace Dispatcher

variable {d d' : Dispatcher α} {l : Lane α} {w : Worker α} {bound i j : Nat}

/-- The dispatcher with the worker of one lane changed. -/
def mapLane (d : Dispatcher α) (i : Nat) (f : Worker α → Worker α) : Dispatcher α :=
  { d with lanes := d.lanes.modify i (·.map f) }

theorem getElem?_mapLane (d : Dispatcher α) (i j : Nat) (f : Worker α → Worker α) :
    (d.mapLane i f).lanes[j]? =
      if i = j then d.lanes[j]?.map (·.map f) else d.lanes[j]? := by
  unfold mapLane
  by_cases hij : i = j
  · rw [if_pos hij, hij, List.getElem?_modify_eq]
    rfl
  · rw [if_neg hij, List.getElem?_modify_ne _ _ hij]

theorem getElem?_mapWorkers (d : Dispatcher α) (f : Worker α → Worker α) (j : Nat) :
    (d.mapWorkers f).lanes[j]? = d.lanes[j]?.map (·.map f) :=
  List.getElem?_map

/-- Two dispatchers are the same if all their lanes are. -/
theorem ext_lanes (hsettings : d.settings = d'.settings) (htime : d.time = d'.time)
    (hlanes : ∀ j : Nat, d.lanes[j]? = d'.lanes[j]?) : d = d' := by
  obtain ⟨settings, lanes, time⟩ := d
  obtain ⟨settings', lanes', time'⟩ := d'
  obtain rfl : settings = settings' := hsettings
  obtain rfl : time = time' := htime
  obtain rfl : lanes = lanes' := List.ext_getElem? hlanes
  rfl

/-! ### Lanes side by side -/

/-- All events that are due before a point in time happen, in any order of the lanes. -/
inductive Settles (bound : Nat) : Dispatcher α → Dispatcher α → Prop
  | quiet {d : Dispatcher α} (hquiet : ∀ l ∈ d.lanes, l.worker.step? bound = none) :
    Settles bound d d
  | event {d d' : Dispatcher α} {l : Lane α} {w : Worker α} (i : Nat) (hl : d.lanes[i]? = some l)
    (hstep : l.worker.step? bound = some w) (hrest : Settles bound (d.mapLane i fun _ => w) d') :
    Settles bound d d'

/-- An event of a lane makes no difference to where the lanes end. -/
theorem mapWorkers_advance_mapLane (hl : d.lanes[i]? = some l)
    (hstep : l.worker.step? bound = some w) :
    (d.mapLane i fun _ => w).mapWorkers (·.advance bound) = d.mapWorkers (·.advance bound) := by
  refine ext_lanes rfl rfl fun j => ?_
  rw [getElem?_mapWorkers, getElem?_mapWorkers, getElem?_mapLane]
  split
  · rename_i hij
    subst hij
    rw [hl, Option.map_some, Option.map_some, Option.map_some, Lane.map, Lane.map, Lane.map,
      ← Worker.advance_eq_of_step? hstep]
  · rfl

/-- A bound for the number of events to come in all lanes. -/
def load : List (Lane α) → Nat
  | [] => 0
  | l :: lanes => l.worker.load + load lanes

theorem load_append (front back : List (Lane α)) :
    load (front ++ back) = load front + load back := by
  induction front with
  | nil => exact (Nat.zero_add _).symm
  | cons l front ih => rw [List.cons_append, load, load, ih, Nat.add_assoc]

/-- An event of a lane makes the bound smaller. -/
theorem load_mapLane_lt (hl : d.lanes[i]? = some l) (hstep : l.worker.step? bound = some w) :
    load (d.mapLane i fun _ => w).lanes < load d.lanes := by
  obtain ⟨hi, hget⟩ := List.getElem?_eq_some_iff.mp hl
  have hsplit : d.lanes.take i ++ l :: d.lanes.drop (i + 1) = d.lanes := by
    rw [← hget, List.getElem_cons_drop, List.take_append_drop]
  calc load (d.mapLane i fun _ => w).lanes
      = load (d.lanes.take i) + (w.load + load (d.lanes.drop (i + 1))) := by
        rw [mapLane, List.modify_eq_take_cons_drop hi, load_append, load, Lane.map]
    _ < load (d.lanes.take i) + (l.worker.load + load (d.lanes.drop (i + 1))) := by
        have hlt := Worker.load_lt_of_step? hstep
        omega
    _ = load d.lanes := by
        rw [← load, ← load_append, hsplit]

/-- Where the lanes end does not depend on the order of their events: every lane runs as if it were
alone. -/
theorem Settles.eq (h : Settles bound d d') : d' = d.mapWorkers (·.advance bound) := by
  induction h with
  | @quiet d hquiet =>
    refine ext_lanes rfl rfl fun j => ?_
    rw [getElem?_mapWorkers]
    cases hl : d.lanes[j]? with
    | none => rfl
    | some l =>
      have hstep := hquiet l (List.mem_of_getElem? hl)
      rw [Option.map_some, Lane.map, Worker.advance_eq_self hstep]
  | event i hl hstep _ ih => rw [ih, mapWorkers_advance_mapLane hl hstep]

/-- Whatever the lanes have done so far, they come to rest. -/
theorem exists_settles (bound : Nat) (d : Dispatcher α) : ∃ d', Settles bound d d' := by
  -- as long as an event is due there is one to take, and each makes the load smaller
  generalize hload : load d.lanes = n
  induction n using Nat.strongRecOn generalizing d with
  | ind n ih =>
    by_cases hquiet : ∀ l ∈ d.lanes, l.worker.step? bound = none
    · exact ⟨d, .quiet hquiet⟩
    · simp only [not_forall] at hquiet
      obtain ⟨l, hmem, hstep⟩ := hquiet
      obtain ⟨w, hw⟩ := Option.ne_none_iff_exists'.mp hstep
      obtain ⟨i, hl⟩ := List.getElem?_of_mem hmem
      obtain ⟨d', hrest⟩ := ih _ (by rw [← hload]; exact load_mapLane_lt hl hw) _ rfl
      exact ⟨d', .event i hl hw hrest⟩

theorem settles_iff : Settles bound d d' ↔ d' = d.mapWorkers (·.advance bound) := by
  constructor
  · exact Settles.eq
  · rintro rfl
    obtain ⟨d', h⟩ := exists_settles bound d
    rwa [← h.eq]

/-- Waiting is letting all events happen that are due, and then setting the clock. -/
theorem wait_eq (d : Dispatcher α) (duration : Nat) :
    d.wait duration = { (d.mapWorkers (·.advance (d.time + duration + 1))).mapWorkers
      (fun w => { w with time := d.time + duration }) with time := d.time + duration } := by
  refine ext_lanes rfl rfl fun j => ?_
  show (d.mapWorkers _).lanes[j]? = ((d.mapWorkers _).mapWorkers _).lanes[j]?
  rw [getElem?_mapWorkers, getElem?_mapWorkers, getElem?_mapWorkers, Option.map_map]
  rfl

/-- What becomes of the workers when the dispatcher stops: they are asked to, their queues are
closed and they run until the end of the grace period. -/
theorem mapWorkers_drain (d : Dispatcher α) :
    d.mapWorkers (drain d.settings d.time) =
      ((d.mapWorkers (·.stop)).mapWorkers (·.close)).mapWorkers
        (·.advance (d.time + d.settings.shutdownGrace.toNat)) := by
  refine ext_lanes rfl rfl fun j => ?_
  rw [getElem?_mapWorkers, getElem?_mapWorkers, getElem?_mapWorkers, getElem?_mapWorkers,
    Option.map_map, Option.map_map]
  rfl

/-! ### All that can happen -/

/-- What is done to the queues of a dispatcher from outside. -/
inductive Call (α : Type) where
  | dispatch (a : α)
  /-- The queue of one lane is closed. -/
  | close (lane : Nat)

/-- Whether a call closes the queue of a lane. -/
def Call.closes (lane : Nat) : Call α → Bool
  | .dispatch _ => false
  | .close i => i = lane

/-- The records that were dispatched before the queue of a lane was closed. -/
def accepted (lane : Nat) : List (Call α) → List α
  | [] => []
  | .dispatch a :: rest => a :: accepted lane rest
  | .close i :: rest => if i = lane then [] else accepted lane rest

/-- A run of a dispatcher, with the time at which it was asked to stop if it was. The events of the
lanes happen in any order and at any time, also in the middle of the calls. -/
inductive Run (settings : DeliverySettings) (sinks : List (String × List Reaction)) :
    List (Call α) → Option Nat → Dispatcher α → Prop
  | new : Run settings sinks [] none (.new settings sinks)
  | dispatch {calls : List (Call α)} {stopped : Option Nat} {d : Dispatcher α} (a : α)
    (h : Run settings sinks calls stopped d) :
    Run settings sinks (calls ++ [.dispatch a]) stopped (d.dispatch a)
  | stop {calls : List (Call α)} {d : Dispatcher α} (h : Run settings sinks calls none d) :
    Run settings sinks calls (some d.time) (d.mapWorkers (·.stop))
  | close {calls : List (Call α)} {t : Nat} {d : Dispatcher α} (i : Nat)
    (h : Run settings sinks calls (some t) d) :
    Run settings sinks (calls ++ [.close i]) (some t) (d.mapLane i (·.close))
  | event {calls : List (Call α)} {stopped : Option Nat} {d : Dispatcher α} {l : Lane α}
    {w : Worker α} (i bound : Nat) (h : Run settings sinks calls stopped d)
    (hl : d.lanes[i]? = some l) (hstep : l.worker.step? bound = some w) :
    Run settings sinks calls stopped (d.mapLane i fun _ => w)
  /-- Workers that wait see what is done to them afterwards at the given time. -/
  | clock {calls : List (Call α)} {stopped : Option Nat} {d : Dispatcher α} (t : Nat)
    (h : Run settings sinks calls stopped d) :
    Run settings sinks calls stopped (d.mapWorkers fun w => { w with time := t })
  | pass {calls : List (Call α)} {stopped : Option Nat} {d : Dispatcher α} (t : Nat)
    (h : Run settings sinks calls stopped d) (ht : d.time ≤ t) :
    Run settings sinks calls stopped { d with time := t }

/-- A run to the end: all workers have finished, or some have not at the end of the grace period and
are cut off. -/
inductive Ends (settings : DeliverySettings) (sinks : List (String × List Reaction))
    (calls : List (Call α)) : Bool → Dispatcher α → Prop
  | drained {t : Nat} {d : Dispatcher α} (h : Run settings sinks calls (some t) d)
    (hall : ∀ l ∈ d.lanes, l.worker.isFinished = true) : Ends settings sinks calls false d
  | cutOff {t : Nat} {d : Dispatcher α} (h : Run settings sinks calls (some t) d)
    (hany : ∃ l ∈ d.lanes, l.worker.isFinished = false)
    (htime : d.time = t + settings.shutdownGrace.toNat) : Ends settings sinks calls true d

section Run

variable {settings : DeliverySettings} {sinks : List (String × List Reaction)}
  {calls : List (Call α)} {stopped : Option Nat}

theorem Ends.run {aborted : Bool} (h : Ends settings sinks calls aborted d) :
    ∃ t, Run settings sinks calls (some t) d := by
  cases h with
  | drained h => exact ⟨_, h⟩
  | cutOff h => exact ⟨_, h⟩

/-- After the queue of a lane was closed nothing more is accepted. -/
theorem accepted_append (i : Nat) (calls calls' : List (Call α)) :
    accepted i (calls ++ calls') = accepted i calls ++
      if calls.any (Call.closes i) then [] else accepted i calls' := by
  induction calls with
  | nil => simp [accepted]
  | cons c calls ih =>
    cases c with
    | dispatch a => simp [accepted, Call.closes, ih]
    | close k =>
      by_cases hk : k = i
      · simp [accepted, Call.closes, hk]
      · simp [accepted, Call.closes, hk, ih]

/-- Closing queues dispatches nothing. -/
theorem accepted_map_close (i : Nat) (lanes : List Nat) :
    accepted i (lanes.map Call.close) = ([] : List α) := by
  induction lanes with
  | nil => rfl
  | cons k lanes ih =>
    rw [List.map_cons, accepted, ih, ite_self]

theorem Run.settles (h : Run settings sinks calls stopped d) (hsettles : Settles bound d d') :
    Run settings sinks calls stopped d' := by
  induction hsettles with
  | quiet => exact h
  | event i hl hstep _ ih => exact ih (.event i _ h hl hstep)

/-- A dispatcher that waits goes on with its run. -/
theorem Run.wait (h : Run settings sinks calls stopped d) (duration : Nat) :
    Run settings sinks calls stopped (d.wait duration) := by
  have hsettles : Settles (d.time + duration + 1) d _ := settles_iff.mpr rfl
  have hclock := (h.settles hsettles).clock (d.time + duration)
  rw [wait_eq]
  exact hclock.pass (d.time + duration) (Nat.le_add_right _ _)

/-- The dispatcher with the queues of its first `n` lanes closed. -/
def closeFirst (d : Dispatcher α) (n : Nat) : Dispatcher α :=
  { d with lanes := d.lanes.mapIdx fun j l => if j < n then l.map (·.close) else l }

theorem closeFirst_zero (d : Dispatcher α) : d.closeFirst 0 = d := by
  refine ext_lanes rfl rfl fun j => ?_
  simp [closeFirst]

theorem closeFirst_succ (d : Dispatcher α) (n : Nat) :
    d.closeFirst (n + 1) = (d.closeFirst n).mapLane n (·.close) := by
  refine ext_lanes rfl rfl fun j => ?_
  rw [getElem?_mapLane, closeFirst, closeFirst, List.getElem?_mapIdx, List.getElem?_mapIdx]
  cases d.lanes[j]? with
  | none => simp
  | some l =>
    rcases Nat.lt_trichotomy j n with hlt | rfl | hgt
    · simp [hlt, Nat.ne_of_gt hlt, Nat.lt_succ_of_lt hlt]
    · simp
    · simp [Nat.ne_of_lt hgt, Nat.not_lt_of_gt hgt, Nat.not_lt.mpr (Nat.succ_le_of_lt hgt)]

theorem closeFirst_length (d : Dispatcher α) :
    d.closeFirst d.lanes.length = d.mapWorkers (·.close) := by
  refine ext_lanes rfl rfl fun j => ?_
  rw [getElem?_mapWorkers, closeFirst, List.getElem?_mapIdx]
  cases hl : d.lanes[j]? with
  | none => rfl
  | some l =>
    obtain ⟨hj, -⟩ := List.getElem?_eq_some_iff.mp hl
    rw [Option.map_some, Option.map_some, if_pos hj]

/-- The queues of all lanes are closed one by one. -/
theorem Run.closeFirst {t : Nat} (h : Run settings sinks calls (some t) d) (n : Nat) :
    Run settings sinks (calls ++ (List.range n).map .close) (some t) (d.closeFirst n) := by
  induction n with
  | zero => simpa [closeFirst_zero] using h
  | succ n ih =>
    rw [List.range_succ, List.map_append, List.map_singleton, ← List.append_assoc,
      closeFirst_succ]
    exact ih.close n

theorem Run.settings_eq (h : Run settings sinks calls stopped d) : d.settings = settings := by
  induction h with
  | new => rfl
  | dispatch _ _ ih | stop _ ih | close _ _ ih | event _ _ _ _ _ ih | clock _ _ ih
  | pass _ _ _ ih => exact ih

theorem le_foldl_max (lanes : List (Lane α)) (t : Nat) :
    t ≤ lanes.foldl (fun t l => max t l.worker.time) t := by
  induction lanes generalizing t with
  | nil => exact Nat.le_refl t
  | cons l lanes ih => exact Nat.le_trans (Nat.le_max_left t l.worker.time) (ih _)

/-- A dispatcher that is shut down ends its run: all workers finish, or those that do not are cut
off. -/
theorem Run.shutdown (h : Run settings sinks calls none d) :
    Ends settings sinks (calls ++ (List.range d.lanes.length).map .close)
      (!d.shutdown.lanes.all (·.worker.isFinished)) d.shutdown := by
  have hclosed := h.stop.closeFirst (d.mapWorkers (·.stop)).lanes.length
  have hlanes : (d.mapWorkers (·.stop)).lanes.length = d.lanes.length := List.length_map _
  rw [closeFirst_length, hlanes] at hclosed
  have hrun := hclosed.settles (settles_iff.mpr (mapWorkers_drain d))
  unfold Dispatcher.shutdown
  cases hall : (d.mapWorkers (drain d.settings d.time)).lanes.all (·.worker.isFinished) with
  | true =>
    simp only [hall, if_true, Bool.not_true]
    exact .drained (hrun.pass _ (le_foldl_max _ _)) (List.all_eq_true.mp hall)
  | false =>
    simp only [hall, if_false, Bool.false_eq_true, Bool.not_false]
    refine .cutOff (hrun.pass _ (Nat.le_add_right _ _)) ?_ (by rw [h.settings_eq])
    obtain ⟨l, hmem, hl⟩ := List.all_eq_false.mp hall
    exact ⟨l, hmem, by simpa using hl⟩

end Run

end Dispatcher

end FlowAudit.Delivery
