import FlowAudit.Delivery.Dispatcher

/-!
# The events of a worker

`Worker.Event` lists what can happen to a worker by itself, each event with what makes it due. Every
event is one of these (`Worker.event_of_step?`), so what is to be shown of all runs of a worker is
shown of each event once.
-/

namespace FlowAudit.Delivery.Worker

variable {α : Type} {w w' : Worker α} {bound : Nat}

/-- What happens to a worker by itself. -/
inductive Event (w : Worker α) (bound : Nat) : Worker α → Prop
  /-- It takes a record from its queue and offers it. -/
  | take (a : α) (rest : List α) (hidle : w.activity = .idle) (hdue : w.time < bound)
    (hitems : w.queue.items = a :: rest) :
    Event w bound (({ w with queue.items := rest } : Worker α).offer a 0 w.time)
  /-- Its queue is closed and empty, and it closes its sink. -/
  | finish (hidle : w.activity = .idle) (hdue : w.time < bound) (hitems : w.queue.items = [])
    (hclosed : w.queue.closed = true) :
    Event w bound { w with activity := .finished, closedAt := some w.time }
  | deliver (a : α) (retries ends : Nat)
    (hact : w.activity = .attempting a retries .delivered ends) (hdue : ends < bound) :
    Event w bound { w with
      activity := .idle
      time := ends
      stats.delivered := w.stats.delivered + 1
      delivered := w.delivered ++ [a] }
  /-- It gives a record up after an attempt. -/
  | giveUp (a : α) (retries : Nat) (outcome : DeliveryOutcome) (ends : Nat) (reason : GiveUp)
    (hact : w.activity = .attempting a retries outcome ends) (hdue : ends < bound)
    (hreason : outcome = .dropPermanent ∧ reason = .rejected ∨
      outcome = .retryLater ∧ w.stopping = true ∧ reason = .stopping ∨
      outcome = .retryLater ∧ w.stopping = false ∧ w.settings.maxRetries.toNat ≤ retries ∧
        reason = .exhausted) :
    Event w bound (w.giveUp reason ends)
  | backOff (a : α) (retries ends : Nat)
    (hact : w.activity = .attempting a retries .retryLater ends) (hdue : ends < bound)
    (hstopping : w.stopping = false) (hretries : retries < w.settings.maxRetries.toNat) :
    Event w bound { w with
      activity := .backingOff a (retries + 1) (ends + (w.settings.backoff retries).toNat)
      time := ends
      stats.retried := w.stats.retried + 1 }
  /-- It is asked to stop between two attempts. -/
  | abandon (a : α) (retries ends : Nat) (hact : w.activity = .backingOff a retries ends)
    (hstopping : w.stopping = true) (hdue : w.time < bound) :
    Event w bound (w.giveUp .stopping w.time)
  | retry (a : α) (retries ends : Nat) (hact : w.activity = .backingOff a retries ends)
    (hstopping : w.stopping = false) (hdue : ends < bound) :
    Event w bound (w.offer a retries ends)

theorem event_of_conclude (a : α) (retries : Nat) (outcome : DeliveryOutcome) (ends : Nat)
    (hact : w.activity = .attempting a retries outcome ends) (hdue : ends < bound) :
    Event w bound (w.conclude a retries outcome ends) := by
  unfold conclude
  cases outcome with
  | delivered => exact .deliver a retries ends hact hdue
  | dropPermanent => exact .giveUp a retries _ ends _ hact hdue (.inl ⟨rfl, rfl⟩)
  | retryLater =>
    by_cases hstopping : w.stopping = true
    · simp only [hstopping, if_true]
      exact .giveUp a retries _ ends _ hact hdue (.inr (.inl ⟨rfl, hstopping, rfl⟩))
    · have hstopping' : w.stopping = false := by simpa using hstopping
      by_cases hretries : retries ≥ w.settings.maxRetries.toNat
      · simp only [hstopping', hretries, if_true, if_false, Bool.false_eq_true]
        exact .giveUp a retries _ ends _ hact hdue (.inr (.inr ⟨rfl, hstopping', hretries, rfl⟩))
      · simp only [hstopping', hretries, if_false, Bool.false_eq_true]
        have h := Event.backOff a retries ends hact hdue hstopping' (Nat.lt_of_not_le hretries)
        rwa [hstopping'] at h

theorem event_of_step? (h : w.step? bound = some w') : Event w bound w' := by
  unfold step? at h
  cases hact : w.activity with
  | idle =>
    simp only [hact] at h
    split at h
    · rename_i hdue
      cases hitems : w.queue.items with
      | nil =>
        simp only [hitems] at h
        split at h
        · rename_i hclosed
          obtain rfl := Option.some.inj h
          exact .finish hact hdue hitems hclosed
        · cases h
      | cons a rest =>
        simp only [hitems] at h
        obtain rfl := Option.some.inj h
        exact .take a rest hact hdue hitems
    · cases h
  | attempting a retries outcome ends =>
    simp only [hact] at h
    split at h
    · rename_i hdue
      obtain rfl := Option.some.inj h
      exact event_of_conclude a retries outcome ends hact hdue
    · cases h
  | backingOff a retries ends =>
    simp only [hact] at h
    split at h
    · rename_i hstopping
      split at h
      · rename_i hdue
        obtain rfl := Option.some.inj h
        exact .abandon a retries ends hact hstopping hdue
      · cases h
    · rename_i hstopping
      split at h
      · rename_i hdue
        obtain rfl := Option.some.inj h
        exact .retry a retries ends hact (by simpa using hstopping) hdue
      · cases h
  | finished => simp [hact] at h

/-! ### Running -/

/-- Running on from an event is running on from before it. -/
theorem advance_eq_of_step? (h : w.step? bound = some w') :
    w.advance bound = w'.advance bound := by
  conv => lhs; unfold advance
  split
  · rename_i w'' h'
    rw [h] at h'
    rw [Option.some.inj h']
  · rename_i h'
    rw [h] at h'
    cases h'

/-- A worker without an event that is due stays as it is. -/
theorem advance_eq_self (h : w.step? bound = none) :
    w.advance bound = w := by
  unfold advance
  split
  · rename_i w' h'
    rw [h] at h'
    cases h'
  · rfl

/-! ### What offering and giving up change -/

section Fields

variable (w : Worker α) (a : α) (retries t : Nat) (reason : GiveUp)

@[simp] theorem queue_offer : (w.offer a retries t).queue = w.queue := rfl

@[simp] theorem stats_offer : (w.offer a retries t).stats = w.stats := rfl

@[simp] theorem attempts_offer : (w.offer a retries t).attempts = w.attempts ++ [⟨a, t⟩] := rfl

@[simp] theorem queue_giveUp : (w.giveUp reason t).queue = w.queue := rfl

@[simp] theorem attempts_giveUp : (w.giveUp reason t).attempts = w.attempts := rfl

@[simp] theorem activity_giveUp : (w.giveUp reason t).activity = .idle := rfl

@[simp] theorem stats_giveUp : (w.giveUp reason t).stats =
    { w.stats with droppedPermanent := w.stats.droppedPermanent + 1 } := rfl

end Fields

/-- No event changes how many records a queue holds at most, or closes it. -/
theorem queue_event (h : w.Event bound w') :
    w'.queue.capacity = w.queue.capacity ∧ w'.queue.closed = w.queue.closed := by
  cases h with
  | take | finish | deliver | giveUp | backOff | abandon | retry => exact ⟨rfl, rfl⟩

end FlowAudit.Delivery.Worker
