import Mathlib.Data.List.Basic
import FlowAudit.Proofs.Delivery.Shutdown

/-!
# What the counters of a worker count

A worker counts a retry when it decides to offer a record once more, before it waits for that. So
the counter of retries is ahead of the attempts by one while the worker waits, and it stays ahead if
the record is given up meanwhile (`Clocked.tally`). That happens at most once, and only if the
worker is asked to stop while it waits: a worker that is never asked to, or at another moment, has
made exactly the attempts that its counters tell (`attempts_eq_of_isFinished`).
-/

namespace FlowAudit.Delivery.Worker

variable {α : Type} {w w' w₀ : Worker α} {t t₀ : Nat} {past : List (Occurrence α)}
  {happening : Happening α}

/-- Whether an attempt is being made. -/
def isAttempting (w : Worker α) : Bool :=
  match w.activity with
  | .attempting .. => true
  | _ => false

/-- Whether the worker waits until it offers a record once more. -/
def isBackingOff (w : Worker α) : Bool :=
  match w.activity with
  | .backingOff .. => true
  | _ => false

/-- The attempts that repeated an earlier one. -/
def repeated (past : List (Occurrence α)) : Nat :=
  past.countP (·.happening.isRetry)

/-- The records that were given up while they waited for their next attempt. -/
def interrupted (past : List (Occurrence α)) : Nat :=
  past.countP (·.happening.isAbandon)

theorem repeated_concat (past : List (Occurrence α)) (x : Occurrence α) :
    repeated (past ++ [x]) = repeated past + x.happening.isRetry.toNat := by
  rw [repeated, List.countP_append, List.countP_singleton]
  cases x.happening.isRetry <;> rfl

theorem interrupted_concat (past : List (Occurrence α)) (x : Occurrence α) :
    interrupted (past ++ [x]) = interrupted past + x.happening.isAbandon.toNat := by
  rw [interrupted, List.countP_append, List.countP_singleton]
  cases x.happening.isAbandon <;> rfl

/-- What the counters of a worker tell about its attempts. -/
structure Tally (w : Worker α) (past : List (Occurrence α)) : Prop where
  attempts_eq : w.attempts.length + interrupted past =
    w.stats.delivered + w.stats.droppedPermanent + w.stats.retried + w.isAttempting.toNat
  retried_eq : w.stats.retried = repeated past + interrupted past + w.isBackingOff.toNat

theorem tally_new (settings : DeliverySettings) (script : List Reaction) :
    (new settings script : Worker α).Tally [] :=
  ⟨rfl, rfl⟩

/-- Every event keeps the tally. -/
theorem Tally.happened (h : w.Tally past) (hevent : Happens w t happening w') :
    w'.Tally (past ++ [⟨happening, t⟩]) := by
  have hattempts := h.attempts_eq
  have hretried := h.retried_eq
  unfold isAttempting at hattempts
  unfold isBackingOff at hretried
  refine ⟨?_, ?_⟩
  · rw [interrupted_concat]
    cases hevent with
    | take a rest hact | retry a retries hact =>
      rw [hact, Bool.toNat_false] at hattempts
      rw [attempts_offer, List.length_append]
      show w.attempts.length + 1 + (interrupted past + 0) =
        w.stats.delivered + w.stats.droppedPermanent + w.stats.retried + 1
      omega
    | finish hact =>
      rw [hact] at hattempts
      exact hattempts
    | deliver a retries hact =>
      rw [hact, Bool.toNat_true] at hattempts
      show w.attempts.length + (interrupted past + 0) =
        w.stats.delivered + 1 + w.stats.droppedPermanent + w.stats.retried + 0
      omega
    | giveUp a retries outcome reason hact =>
      rw [hact, Bool.toNat_true] at hattempts
      show w.attempts.length + (interrupted past + 0) =
        w.stats.delivered + (w.stats.droppedPermanent + 1) + w.stats.retried + 0
      omega
    | backOff a retries hact =>
      rw [hact, Bool.toNat_true] at hattempts
      show w.attempts.length + (interrupted past + 0) =
        w.stats.delivered + w.stats.droppedPermanent + (w.stats.retried + 1) + 0
      omega
    | abandon a retries ends hact =>
      rw [hact, Bool.toNat_false] at hattempts
      show w.attempts.length + (interrupted past + 1) =
        w.stats.delivered + (w.stats.droppedPermanent + 1) + w.stats.retried + 0
      omega
  · rw [repeated_concat, interrupted_concat]
    cases hevent with
    | take a rest hact | finish hact | deliver a retries hact
    | giveUp a retries outcome reason hact =>
      rw [hact] at hretried
      exact hretried
    | backOff a retries hact =>
      -- the retry is counted before it is made
      rw [hact, Bool.toNat_false] at hretried
      show w.stats.retried + 1 = repeated past + 0 + (interrupted past + 0) + 1
      omega
    | abandon a retries ends hact =>
      rw [hact, Bool.toNat_true] at hretried
      show w.stats.retried = repeated past + 0 + (interrupted past + 1) + 0
      omega
    | retry a retries hact =>
      rw [hact, Bool.toNat_true] at hretried
      show w.stats.retried = repeated past + 1 + (interrupted past + 0) + 0
      omega

theorem Tally.push (h : w.Tally past) (a : α) : (w.push a).Tally past := by
  obtain ⟨queue, droppedOldest, heq⟩ := w.push_eq a
  rw [heq]
  exact ⟨h.attempts_eq, h.retried_eq⟩

theorem Tally.stop (h : w.Tally past) : w.stop.Tally past :=
  ⟨h.attempts_eq, h.retried_eq⟩

theorem Tally.close (h : w.Tally past) : w.close.Tally past :=
  ⟨h.attempts_eq, h.retried_eq⟩

/-- What is neither a retry nor gives up a record that waits for one leaves the tally as it is. -/
theorem Tally.concat (h : w.Tally past) (x : Occurrence α) (hretry : x.happening.isRetry = false)
    (habandon : x.happening.isAbandon = false) : w.Tally (past ++ [x]) := by
  refine ⟨?_, ?_⟩
  · rw [interrupted_concat, habandon]
    exact h.attempts_eq
  · rw [repeated_concat, interrupted_concat, hretry, habandon]
    exact h.retried_eq

/-- In every run the counters are ahead of the attempts by the records that wait or were given up
waiting. -/
theorem Clocked.tally {settings : DeliverySettings} {script : List Reaction}
    (h : Clocked 0 (new settings script) past t w) : w.Tally past := by
  have hnew := onTime_new (α := α) settings script
  induction h with
  | start => exact tally_new settings script
  | push a _ ih => exact (ih.push a).concat ⟨.push a, _⟩ rfl rfl
  | stop _ ih => exact ih.stop.concat ⟨.stop, _⟩ rfl rfl
  | close _ ih => exact ih.close.concat ⟨.close, _⟩ rfl rfl
  | event h hstep ih => exact ih.happened ((h.onTime hnew).happens hstep)
  | pass _ _ _ _ ih => exact ⟨ih.attempts_eq, ih.retried_eq⟩

/-! ### Records given up between two attempts -/

theorem Happens.isAbandon_eq_false (h : Happens w t happening w') (hrunning : w.stopping = false) :
    happening.isAbandon = false := by
  cases h with
  | abandon _ _ _ _ hstopping =>
    rw [hrunning] at hstopping
    cases hstopping
  | take | finish | deliver | giveUp | backOff | retry => rfl

/-- A worker gives up no record between two attempts before it is asked to stop. -/
theorem Clocked.interrupted_eq_zero (h₀ : w₀.OnTime t₀) (hrunning : w₀.stopping = false)
    (h : Clocked t₀ w₀ past t w) (hpast : ∀ x ∈ past, x.happening.isStop = false) :
    w.stopping = false ∧ interrupted past = 0 := by
  induction h with
  | start => exact ⟨hrunning, rfl⟩
  | @push _ _ w a _ ih =>
    obtain ⟨queue, droppedOldest, heq⟩ := w.push_eq a
    rw [heq, interrupted_concat]
    exact ih (List.forall_mem_append.mp hpast).1
  | stop =>
    have hlast := List.forall_mem_singleton.mp (List.forall_mem_append.mp hpast).2
    cases hlast
  | close _ ih =>
    rw [interrupted_concat]
    exact ih (List.forall_mem_append.mp hpast).1
  | event h hstep ih =>
    obtain ⟨hstopping, hnone⟩ := ih (List.forall_mem_append.mp hpast).1
    have hevent := (h.onTime h₀).happens hstep
    rw [hevent.stopping_eq, interrupted_concat, hevent.isAbandon_eq_false hstopping]
    exact ⟨hstopping, hnone⟩
  | pass _ _ _ _ ih => exact ih hpast

theorem Happens.isBackingOff_eq (h : Happens w t happening w') (hstopping : w.stopping = true) :
    happening.isAbandon.toNat + w'.isBackingOff.toNat = w.isBackingOff.toNat := by
  unfold isBackingOff
  cases h with
  | take a rest hact | finish hact | deliver a retries hact
  | giveUp a retries outcome reason hact | abandon a retries ends hact =>
    rw [hact]
    rfl
  | backOff _ _ _ hnot | retry _ _ _ hnot =>
    rw [hstopping] at hnot
    cases hnot

/-- After the request to stop, a worker gives up between two attempts the record that the request
found there, and no other. -/
theorem Clocked.interrupted_eq (h₀ : w₀.OnTime t₀) (hstopping : w₀.stopping = true)
    (h : Clocked t₀ w₀ past t w) :
    interrupted past + w.isBackingOff.toNat = w₀.isBackingOff.toNat := by
  induction h with
  | start => exact Nat.zero_add _
  | @push _ _ w a _ ih =>
    obtain ⟨queue, droppedOldest, heq⟩ := w.push_eq a
    rw [heq, interrupted_concat]
    exact ih
  | stop _ ih | close _ ih =>
    rw [interrupted_concat]
    exact ih
  | @event past _ w w' h hstep ih =>
    have heq := ((h.onTime h₀).happens hstep).isBackingOff_eq (h.stopping h₀ hstopping)
    rw [interrupted_concat]
    show interrupted past + w.next.isAbandon.toNat + w'.isBackingOff.toNat = w₀.isBackingOff.toNat
    omega
  | pass _ _ _ _ ih => exact ih

/-! ### The law of the counters -/

/-- A worker that has finished has counted every attempt, and one more for each record that it gave
up between two attempts: its attempts and these records together are as many as the records
delivered, the records given up and the retries, and the retries are the attempts repeated and these
records. If the worker was never asked to stop there is no such record. If it was, there is none if
the request found it idle or in an attempt, and exactly one if the request found it waiting for its
next attempt. -/
theorem attempts_eq_of_isFinished (settings : DeliverySettings) (script : List Reaction) :
    (∀ past t w, Clocked 0 (new settings script : Worker α) past t w → w.isFinished = true →
      w.attempts.length + interrupted past =
        w.stats.delivered + w.stats.droppedPermanent + w.stats.retried ∧
      w.stats.retried = repeated past + interrupted past) ∧
    (∀ past t w, Clocked 0 (new settings script : Worker α) past t w →
      (∀ x ∈ past, x.happening.isStop = false) → interrupted past = 0) ∧
    ∀ before T w₁ after t w, Clocked 0 (new settings script : Worker α) before T w₁ →
      (∀ x ∈ before, x.happening.isStop = false) → Clocked T w₁.stop after t w →
      w.isFinished = true →
      Clocked 0 (new settings script) (before ++ ⟨.stop, T⟩ :: after) t w ∧
      (w₁.isBackingOff = false → interrupted (before ++ ⟨.stop, T⟩ :: after) = 0) ∧
      ∀ a retries ends, w₁.activity = .backingOff a retries ends → T < ends →
        interrupted (before ++ ⟨.stop, T⟩ :: after) = 1 := by
  have hnew := onTime_new (α := α) settings script
  refine ⟨?_, ?_, ?_⟩
  · intro past t w hpast hfinished
    have hattempts := hpast.tally.attempts_eq
    have hretried := hpast.tally.retried_eq
    rw [isAttempting, activity_of_isFinished hfinished] at hattempts
    rw [isBackingOff, activity_of_isFinished hfinished] at hretried
    exact ⟨hattempts, hretried⟩
  · intro past t w hpast hstop
    exact (hpast.interrupted_eq_zero hnew rfl hstop).2
  · intro before T w₁ after t w hbefore hstop hafter hfinished
    have hrun := hbefore.stop.trans hafter
    rw [List.append_assoc, List.singleton_append] at hrun
    -- nothing is given up in this way before the request, and after it what the request found
    have hnone := (hbefore.interrupted_eq_zero hnew rfl hstop).2
    have hfound := hafter.interrupted_eq (hbefore.onTime hnew).stop rfl
    rw [isBackingOff, activity_of_isFinished hfinished] at hfound
    have htotal : interrupted (before ++ ⟨.stop, T⟩ :: after) = w₁.isBackingOff.toNat := by
      calc interrupted (before ++ ⟨.stop, T⟩ :: after)
          = interrupted before + interrupted after := List.countP_append
        _ = interrupted after := by rw [hnone, Nat.zero_add]
        _ = w₁.isBackingOff.toNat := hfound
    refine ⟨hrun, fun hheld => ?_, fun a retries ends hact _ => ?_⟩
    · rw [htotal, hheld, Bool.toNat_false]
    · rw [htotal, isBackingOff, hact, Bool.toNat_true]

/-- The sink asks to try a record again, and the worker is asked to stop before it does. -/
theorem attempts_ne_of_interrupted : ∃ past t w,
    Clocked 0 (new {} [.answer .retryLater 0] : Worker Nat) past t w ∧ w.isFinished = true ∧
      w.attempts.length ≠ w.stats.delivered + w.stats.droppedPermanent + w.stats.retried := by
  have hnew : Clocked 0 (new {} [.answer .retryLater 0] : Worker Nat) [] 0 _ := .start
  have htried := ((hnew.push 1).event rfl).event rfl
  have hheld := htried.pass 5 (by decide) rfl
  have hend := ((hheld.stop.event rfl).close).event rfl
  exact ⟨_, _, _, hend, rfl, by decide⟩

end FlowAudit.Delivery.Worker
