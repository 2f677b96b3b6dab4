import FlowAudit.Configuration
import FlowAudit.Delivery.Queue
import FlowAudit.Delivery.Warning

/-!
# The worker of a sink

A worker takes records from its queue one by one and offers each to its sink until the sink takes or
rejects it, or the retries are used up. An attempt that is not answered in time counts as a failure
that may pass. Between two attempts the worker waits, longer each time. Once it is asked to stop it
still offers every record that waits in its queue, but each only once, and it gives up a record that
it holds between two attempts. When the queue is closed and empty the sink is closed.

Time is virtual: it only moves from one event to the next. `Worker.step?` is the next event, if it is
due, and `Worker.advance` runs all events that are due before a point in time. Every event uses up a
reaction of the sink, takes a record from the queue, or brings the worker closer to waiting, so a run
ends (`Worker.load_lt_of_step?`).
-/

namespace FlowAudit.Delivery

/-! ### What sinks answer -/

/-- What a sink answers to an attempt. -/
inductive DeliveryOutcome where
  | delivered
  /-- The sink could not take the record now, but may do so later. -/
  | retryLater
  /-- The sink will never take the record. -/
  | dropPermanent
  deriving DecidableEq, Repr, Inhabited

/-- How a sink reacts to an attempt. -/
inductive Reaction where
  /-- It answers after a delay. -/
  | answer (outcome : DeliveryOutcome) (delay : Nat)
  /-- It never answers. -/
  | hang
  deriving DecidableEq, Repr, Inhabited

namespace Reaction

/-- What an attempt gives that ends after `timeout` at the latest, and how long it takes. An answer
at the very end counts. -/
def within (timeout : Nat) : Reaction → DeliveryOutcome × Nat
  | .answer outcome delay => if delay ≤ timeout then (outcome, delay) else (.retryLater, timeout)
  | .hang => (.retryLater, timeout)

end Reaction

/-- Why a record was given up. -/
inductive GiveUp where
  | rejected
  | exhausted
  | stopping
  deriving DecidableEq, Repr, Inhabited

/-- The text of a reason in warnings. -/
def GiveUp.text : GiveUp → String
  | .rejected => "rejected by sink"
  | .exhausted => "retries exhausted"
  | .stopping => "not retried during shutdown"

/-- A warning that a record was given up. -/
structure Warning where
  reason : GiveUp
  /-- The warnings held back before it. -/
  suppressed : Nat
  deriving DecidableEq, Repr, Inhabited

/-- What became of the records of a sink. -/
structure SinkStats where
  delivered : Nat := 0
  /-- Attempts repeated. -/
  retried : Nat := 0
  /-- Records dropped from a full queue. -/
  droppedOldest : Nat := 0
  /-- Records given up. -/
  droppedPermanent : Nat := 0
  deriving DecidableEq, Repr, Inhabited

/-! ### The worker -/

/-- What a worker is doing. -/
inductive Activity (α : Type) where
  /-- It waits for a record. -/
  | idle
  /-- It has offered a record; the outcome is known at the time `ends`. -/
  | attempting (record : α) (retries : Nat) (outcome : DeliveryOutcome) (ends : Nat)
  /-- It waits until it offers a record once more. -/
  | backingOff (record : α) (retries : Nat) (ends : Nat)
  /-- It has closed its sink. -/
  | finished
  deriving DecidableEq, Repr, Inhabited

/-- An attempt that was made. -/
structure Attempt (α : Type) where
  record : α
  time : Nat
  deriving DecidableEq, Repr, Inhabited

/-- A worker with its queue and its sink. -/
structure Worker (α : Type) where
  settings : DeliverySettings
  queue : Queue α
  /-- How the sink reacts to the attempts to come; it takes every record after that. -/
  script : List Reaction
  /-- Whether the worker is asked to stop. -/
  stopping : Bool
  activity : Activity α
  /-- When the last event happened, or what it was told to wait until. -/
  time : Nat
  stats : SinkStats
  limiter : WarnLimiter
  /-- The clock of the warnings, which stands still while virtual time moves. -/
  warningClock : Nat
  /-- The warnings that went out, in order. -/
  warnings : List Warning
  /-- The attempts made, in order. -/
  attempts : List (Attempt α)
  /-- The records that the sink took, in order. -/
  delivered : List α
  /-- When the sink was closed. -/
  closedAt : Option Nat
  deriving Repr, Inhabited

namespace Worker

variable {α : Type}

/-- A worker at time zero. -/
def new (settings : DeliverySettings) (script : List Reaction) : Worker α where
  settings := settings
  queue := .empty settings.queueCapacity
  script := script
  stopping := false
  activity := .idle
  time := 0
  stats := {}
  limiter := .new settings.warnInterval
  warningClock := 0
  warnings := []
  attempts := []
  delivered := []
  closedAt := none

/-! ### What is done to a worker -/

/-- Adds a record to the queue. -/
def push (w : Worker α) (a : α) : Worker α :=
  let (outcome, queue) := w.queue.push a
  match outcome with
  | .droppedOldest =>
    { w with queue, stats.droppedOldest := w.stats.droppedOldest + 1 }
  | _ => { w with queue }

/-- Asks the worker to stop. -/
def stop (w : Worker α) : Worker α :=
  { w with stopping := true }

/-- Closes the queue. -/
def close (w : Worker α) : Worker α :=
  { w with queue := w.queue.close }

/-! ### Events -/

/-- The reaction to the next attempt, and those behind it. -/
def nextReaction : List Reaction → Reaction × List Reaction
  | [] => (.answer .delivered 0, [])
  | r :: rest => (r, rest)

/-- Offers a record to the sink at time `t`. -/
def offer (w : Worker α) (a : α) (retries t : Nat) : Worker α :=
  let (reaction, script) := nextReaction w.script
  let (outcome, duration) := reaction.within w.settings.deliveryTimeout.toNat
  { w with
    script
    activity := .attempting a retries outcome (t + duration)
    time := t
    attempts := w.attempts ++ [⟨a, t⟩] }

/-- Gives a record up at time `t`. -/
def giveUp (w : Worker α) (reason : GiveUp) (t : Nat) : Worker α :=
  let (passed, limiter) := w.limiter.check w.warningClock
  { w with
    activity := .idle
    time := t
    stats.droppedPermanent := w.stats.droppedPermanent + 1
    limiter
    warnings := match passed with
      | some suppressed => w.warnings ++ [⟨reason, suppressed⟩]
      | none => w.warnings }

/-- Takes in the outcome of an attempt that ends at time `t`. -/
def conclude (w : Worker α) (a : α) (retries : Nat) (outcome : DeliveryOutcome) (t : Nat) :
    Worker α :=
  match outcome with
  | .delivered =>
    { w with
      activity := .idle
      time := t
      stats.delivered := w.stats.delivered + 1
      delivered := w.delivered ++ [a] }
  | .dropPermanent => w.giveUp .rejected t
  | .retryLater =>
    if w.stopping then w.giveUp .stopping t
    else if retries ≥ w.settings.maxRetries.toNat then w.giveUp .exhausted t
    else
      { w with
        activity := .backingOff a (retries + 1) (t + (w.settings.backoff retries).toNat)
        time := t
        stats.retried := w.stats.retried + 1 }

/-- The next event, if it is due before `bound`. -/
def step? (w : Worker α) (bound : Nat) : Option (Worker α) :=
  match w.activity with
  | .idle =>
    if w.time < bound then
      match w.queue.items with
      | a :: rest => some ({ w with queue.items := rest }.offer a 0 w.time)
      | [] =>
        if w.queue.closed then
          some { w with activity := .finished, closedAt := some w.time }
        else
          none
    else
      none
  | .attempting a retries outcome ends =>
    if ends < bound then some (w.conclude a retries outcome ends) else none
  | .backingOff a retries ends =>
    if w.stopping then
      if w.time < bound then some (w.giveUp .stopping w.time) else none
    else if ends < bound then
      some (w.offer a retries ends)
    else
      none
  | .finished => none

/-! ### Runs -/

/-- How many events an activity may still bring about by itself. -/
def Activity.load : Activity α → Nat
  | .finished => 0
  | .idle => 1
  | .attempting _ _ .retryLater _ => 4
  | .attempting .. => 2
  | .backingOff .. => 3

/-- A bound for the number of events to come. -/
def load (w : Worker α) : Nat :=
  4 * w.script.length + 2 * w.queue.items.length + Activity.load w.activity

theorem load_attempting_le (a : α) (retries : Nat) (outcome : DeliveryOutcome) (ends : Nat) :
    Activity.load (.attempting a retries outcome ends) ≤ 4 := by
  cases outcome <;> simp [Activity.load]

/-- Offering a record uses up a reaction, or the sink takes it at once. -/
theorem load_offer_le (w : Worker α) (a : α) (retries t : Nat) :
    (w.offer a retries t).load ≤ 4 * w.script.length + 2 * w.queue.items.length + 2 := by
  unfold offer
  cases h : w.script with
  | nil => simp [nextReaction, Reaction.within, load, Activity.load]
  | cons r rest =>
    have := load_attempting_le a retries (r.within w.settings.deliveryTimeout.toNat).1
      (t + (r.within w.settings.deliveryTimeout.toNat).2)
    simp only [nextReaction, load, List.length_cons]
    omega

theorem load_giveUp (w : Worker α) (reason : GiveUp) (t : Nat) :
    (w.giveUp reason t).load = 4 * w.script.length + 2 * w.queue.items.length + 1 := by
  simp [giveUp, load, Activity.load]

/-- Every event makes the load smaller. -/
theorem load_lt_of_step? {w w' : Worker α} {bound : Nat} (h : w.step? bound = some w') :
    w'.load < w.load := by
  unfold step? at h
  split at h
  · rename_i hidle
    split at h
    · split at h
      · rename_i a rest hitems
        cases h
        have := load_offer_le { w with queue.items := rest } a 0 w.time
        simp only [load, hidle, hitems, Activity.load, List.length_cons] at *
        omega
      · split at h
        · cases h
          simp [load, hidle, Activity.load]
        · cases h
    · cases h
  · rename_i a retries outcome ends hact
    split at h
    · cases h
      cases outcome with
      | delivered => simp [conclude, load, hact, Activity.load]
      | dropPermanent =>
        simp only [conclude, load_giveUp]
        simp only [load, hact, Activity.load]
        omega
      | retryLater =>
        simp only [conclude]
        split
        · rw [load_giveUp]
          simp only [load, hact, Activity.load]
          omega
        · split
          · rw [load_giveUp]
            simp only [load, hact, Activity.load]
            omega
          · simp [load, hact, Activity.load]
    · cases h
  · rename_i a retries ends hact
    split at h
    · split at h
      · cases h
        rw [load_giveUp]
        simp only [load, hact, Activity.load]
        omega
      · cases h
    · split at h
      · cases h
        have := load_offer_le w a retries ends
        simp only [load, hact, Activity.load] at *
        omega
      · cases h
  · cases h

/-- Runs all events that are due before `bound`. -/
def advance (w : Worker α) (bound : Nat) : Worker α :=
  match _h : w.step? bound with
  | some w' => w'.advance bound
  | none => w
termination_by w.load
decreasing_by exact load_lt_of_step? ‹_›

/-- Lets time pass to `t`, with all events that are due until then. A worker that waits for a record
or between two attempts sees what is done to it afterwards at time `t`. -/
def waitUntil (w : Worker α) (t : Nat) : Worker α :=
  { w.advance (t + 1) with time := t }

/-- Whether the sink is closed. -/
def isFinished (w : Worker α) : Bool :=
  match w.activity with
  | .finished => true
  | _ => false

end Worker

end FlowAudit.Delivery
