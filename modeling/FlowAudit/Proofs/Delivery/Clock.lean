import Mathlib.Data.List.Basic
import FlowAudit.Proofs.Delivery.Ledger
import FlowAudit.Proofs.Delivery.Lockstep

/-!
# Workers on the virtual clock

`Worker.Clocked` is what can happen to a worker on the virtual clock. What is done to it from
outside happens at any time. Its own events happen when they are due, and time passes only while
none is, so at one moment there may be several of them, before and behind what is done from outside.
A run is told by its occurrences: what happened, and when.

Every event of a run happens on time (`Happens`, `OnTime.happens`), and the attempts of the worker
are the occurrences at which it offers a record (`Clocked.attempts_eq`). A worker that is run by
`Worker.advance` or told to wait goes on with its run (`Clocked.advance`, `Clocked.waitUntil`).
-/

namespace FlowAudit.Delivery

variable {α : Type}

/-- What happens to a worker. -/
inductive Happening (α : Type) where
  | push (a : α)
  | stop
  | close
  /-- It takes a record from its queue and offers it for the first time. -/
  | take (a : α)
  /-- It offers a record that it holds once more. -/
  | retry (a : α)
  | deliver (a : α)
  /-- It gives a record up after an attempt. -/
  | giveUp (a : α) (reason : GiveUp)
  | backOff (a : α)
  /-- It gives up a record that waits for its next attempt. -/
  | abandon (a : α)
  | finish
  deriving DecidableEq, Repr

namespace Happening

/-- Whether it is an event of the worker itself. -/
def isOwn : Happening α → Bool
  | .push _ => false
  | .stop => false
  | .close => false
  | _ => true

def isStop : Happening α → Bool
  | .stop => true
  | _ => false

def isRetry : Happening α → Bool
  | .retry _ => true
  | _ => false

def isAbandon : Happening α → Bool
  | .abandon _ => true
  | _ => false

end Happening

/-- What happened, and when. -/
structure Occurrence (α : Type) where
  happening : Happening α
  time : Nat
  deriving DecidableEq, Repr

namespace Occurrence

/-- The record that is added to the queue, or is dropped if it takes nothing more. -/
def pushed? (x : Occurrence α) : Option α :=
  match x.happening with
  | .push a => some a
  | _ => none

/-- The attempt that is made when a record is taken from the queue. -/
def first? (x : Occurrence α) : Option (Attempt α) :=
  match x.happening with
  | .take a => some ⟨a, x.time⟩
  | _ => none

/-- The attempt that is made. -/
def attempt? (x : Occurrence α) : Option (Attempt α) :=
  match x.happening with
  | .take a => some ⟨a, x.time⟩
  | .retry a => some ⟨a, x.time⟩
  | _ => none

end Occurrence

namespace Worker

variable {w w' w₀ w₁ : Worker α} {t t' t₀ t₁ bound : Nat} {past more : List (Occurrence α)}
  {happening : Happening α}

/-- What the next event of a worker is. -/
def next (w : Worker α) : Happening α :=
  match w.activity with
  | .idle =>
    match w.queue.items with
    | a :: _ => .take a
    | [] => .finish
  | .attempting a _ .delivered _ => .deliver a
  | .attempting a _ .dropPermanent _ => .giveUp a .rejected
  | .attempting a retries .retryLater _ =>
    if w.stopping then .giveUp a .stopping
    else if retries ≥ w.settings.maxRetries.toNat then .giveUp a .exhausted
    else .backOff a
  | .backingOff a _ _ => if w.stopping then .abandon a else .retry a
  | .finished => .finish

theorem isOwn_next (w : Worker α) : w.next.isOwn = true := by
  unfold next
  split
  · split <;> rfl
  · rfl
  · rfl
  · split
    · rfl
    · split <;> rfl
  · split <;> rfl
  · rfl

/-- A run of a worker on the virtual clock. -/
inductive Clocked (t₀ : Nat) (w₀ : Worker α) : List (Occurrence α) → Nat → Worker α → Prop
  | start : Clocked t₀ w₀ [] t₀ w₀
  | push {past : List (Occurrence α)} {t : Nat} {w : Worker α} (a : α)
    (h : Clocked t₀ w₀ past t w) : Clocked t₀ w₀ (past ++ [⟨.push a, t⟩]) t (w.push a)
  | stop {past : List (Occurrence α)} {t : Nat} {w : Worker α}
    (h : Clocked t₀ w₀ past t w) : Clocked t₀ w₀ (past ++ [⟨.stop, t⟩]) t w.stop
  | close {past : List (Occurrence α)} {t : Nat} {w : Worker α}
    (h : Clocked t₀ w₀ past t w) : Clocked t₀ w₀ (past ++ [⟨.close, t⟩]) t w.close
  | event {past : List (Occurrence α)} {t : Nat} {w w' : Worker α}
    (h : Clocked t₀ w₀ past t w) (hstep : w.step? (t + 1) = some w') :
    Clocked t₀ w₀ (past ++ [⟨w.next, t⟩]) t w'
  /-- Time passes as long as nothing is due before. -/
  | pass {past : List (Occurrence α)} {t : Nat} {w : Worker α} (t' : Nat)
    (h : Clocked t₀ w₀ past t w) (hle : t ≤ t') (hquiet : w.step? t' = none) :
    Clocked t₀ w₀ past t' { w with time := t' }

theorem Clocked.trans (h : Clocked t₀ w₀ past t₁ w₁) (h' : Clocked t₁ w₁ more t w) :
    Clocked t₀ w₀ (past ++ more) t w := by
  induction h' with
  | start => rwa [List.append_nil]
  | push a _ ih =>
    rw [← List.append_assoc]
    exact ih.push a
  | stop _ ih =>
    rw [← List.append_assoc]
    exact ih.stop
  | close _ ih =>
    rw [← List.append_assoc]
    exact ih.close
  | event _ hstep ih =>
    rw [← List.append_assoc]
    exact ih.event hstep
  | pass t' _ hle hquiet ih => exact ih.pass t' hle hquiet

/-! ### On time -/

/-- When the next event of a worker is due, if there is one. -/
def dueAt (w : Worker α) : Nat :=
  match w.activity with
  | .idle => w.time
  | .attempting _ _ _ ends => ends
  | .backingOff _ _ ends => if w.stopping then w.time else ends
  | .finished => w.time

theorem step?_eq_none_of_le (hle : bound ≤ w.dueAt) : w.step? bound = none := by
  unfold dueAt at hle
  cases hact : w.activity with
  | idle =>
    have hnot := Nat.not_lt.mpr (show bound ≤ w.time by simpa only [hact] using hle)
    simp [step?, hact, hnot]
  | attempting a retries outcome ends =>
    have hnot := Nat.not_lt.mpr (show bound ≤ ends by simpa only [hact] using hle)
    simp [step?, hact, hnot]
  | backingOff a retries ends =>
    simp only [hact] at hle
    cases hstopping : w.stopping with
    | true =>
      have hnot := Nat.not_lt.mpr (show bound ≤ w.time by simpa [hstopping] using hle)
      simp [step?, hact, hstopping, hnot]
    | false =>
      have hnot := Nat.not_lt.mpr (show bound ≤ ends by simpa [hstopping] using hle)
      simp [step?, hact, hstopping, hnot]
  | finished => simp [step?, hact]

/-- An event that is due is the same however long one waits for it. -/
theorem step?_eq_of_lt (hdue : w.dueAt < bound) : w.step? bound = w.step? (w.dueAt + 1) := by
  unfold dueAt at hdue ⊢
  cases hact : w.activity with
  | idle | attempting | finished => simp_all [step?]
  | backingOff a retries ends =>
    cases hstopping : w.stopping with
    | true | false => simp_all [step?]

theorem dueAt_lt_of_step? (hstep : w.step? bound = some w') : w.dueAt < bound := by
  by_contra hnot
  rw [step?_eq_none_of_le (Nat.le_of_not_lt hnot)] at hstep
  cases hstep

/-- What is not due before some time is not due earlier. -/
theorem step?_eq_none_of_none (hquiet : w.step? bound = none) (hle : t ≤ bound) :
    w.step? t = none := by
  rcases Nat.lt_or_ge w.dueAt t with hdue | hdue
  · rwa [step?_eq_of_lt hdue, ← step?_eq_of_lt (Nat.lt_of_lt_of_le hdue hle)]
  · exact step?_eq_none_of_le hdue

/-- A worker has missed nothing that was due before `t`. -/
structure OnTime (w : Worker α) (t : Nat) : Prop where
  time_eq : w.time = t
  le_dueAt : t ≤ w.dueAt

theorem onTime_new (settings : DeliverySettings) (script : List Reaction) :
    (new settings script : Worker α).OnTime 0 :=
  ⟨rfl, Nat.zero_le _⟩

/-- What happens to a worker by itself at time `t`. -/
inductive Happens (w : Worker α) (t : Nat) : Happening α → Worker α → Prop
  | take (a : α) (rest : List α) (hidle : w.activity = .idle) (hitems : w.queue.items = a :: rest) :
    Happens w t (.take a) (({ w with queue.items := rest } : Worker α).offer a 0 t)
  | finish (hidle : w.activity = .idle) (hitems : w.queue.items = [])
    (hclosed : w.queue.closed = true) :
    Happens w t .finish { w with activity := .finished, closedAt := some t }
  | deliver (a : α) (retries : Nat) (hact : w.activity = .attempting a retries .delivered t) :
    Happens w t (.deliver a) { w with
      activity := .idle
      time := t
      stats.delivered := w.stats.delivered + 1
      delivered := w.delivered ++ [a] }
  | giveUp (a : α) (retries : Nat) (outcome : DeliveryOutcome) (reason : GiveUp)
    (hact : w.activity = .attempting a retries outcome t) :
    Happens w t (.giveUp a reason) (w.giveUp reason t)
  | backOff (a : α) (retries : Nat) (hact : w.activity = .attempting a retries .retryLater t)
    (hstopping : w.stopping = false) :
    Happens w t (.backOff a) { w with
      activity := .backingOff a (retries + 1) (t + (w.settings.backoff retries).toNat)
      time := t
      stats.retried := w.stats.retried + 1 }
  | abandon (a : α) (retries ends : Nat) (hact : w.activity = .backingOff a retries ends)
    (hstopping : w.stopping = true) : Happens w t (.abandon a) (w.giveUp .stopping t)
  | retry (a : α) (retries : Nat) (hact : w.activity = .backingOff a retries t)
    (hstopping : w.stopping = false) : Happens w t (.retry a) (w.offer a retries t)

/-- An event of a worker that has missed nothing happens on time, and is the one that was next. -/
theorem OnTime.happens (h : w.OnTime t) (hstep : w.step? (t + 1) = some w') :
    Happens w t w.next w' := by
  have htime := h.time_eq
  -- what is due by now is due now
  have hends {ends : Nat} (hdue : w.dueAt = ends) (hlt : ends < t + 1) : ends = t :=
    Nat.le_antisymm (Nat.le_of_lt_succ hlt) (hdue ▸ h.le_dueAt)
  cases event_of_step? hstep with
  | take a rest hidle _ hitems =>
    rw [htime, show w.next = .take a by rw [next, hidle, hitems]]
    exact .take a rest hidle hitems
  | finish hidle _ hitems hclosed =>
    obtain rfl := htime
    rw [show w.next = .finish by rw [next, hidle, hitems]]
    exact .finish hidle hitems hclosed
  | deliver a retries ends hact hdue =>
    obtain rfl := hends (by rw [dueAt, hact]) hdue
    rw [show w.next = .deliver a by rw [next, hact]]
    exact .deliver a retries hact
  | giveUp a retries outcome ends reason hact hdue hreason =>
    obtain rfl := hends (by rw [dueAt, hact]) hdue
    have hnext : w.next = .giveUp a reason := by
      rcases hreason with ⟨rfl, rfl⟩ | ⟨rfl, hstopping, rfl⟩ | ⟨rfl, hstopping, hretries, rfl⟩
      · rw [next, hact]
      · simp [next, hact, hstopping]
      · simp [next, hact, hstopping, hretries]
    rw [hnext]
    exact .giveUp a retries outcome reason hact
  | backOff a retries ends hact hdue hstopping hretries =>
    obtain rfl := hends (by rw [dueAt, hact]) hdue
    have hnext : w.next = .backOff a := by
      simp [next, hact, hstopping, Nat.not_le.mpr hretries]
    rw [hnext]
    exact .backOff a retries hact hstopping
  | abandon a retries ends hact hstopping =>
    rw [htime, show w.next = .abandon a by simp [next, hact, hstopping]]
    exact .abandon a retries ends hact hstopping
  | retry a retries ends hact hstopping hdue =>
    obtain rfl := hends (by simp [dueAt, hact, hstopping]) hdue
    rw [show w.next = .retry a by simp [next, hact, hstopping]]
    exact .retry a retries hact hstopping

theorem OnTime.happened (h : w.OnTime t) (hevent : Happens w t happening w') : w'.OnTime t := by
  cases hevent with
  | take | retry => exact ⟨rfl, Nat.le_add_right t _⟩
  | finish => exact ⟨h.time_eq, Nat.le_of_eq h.time_eq.symm⟩
  | deliver | giveUp | abandon => exact ⟨rfl, Nat.le_refl t⟩
  | backOff a retries hact hstopping =>
    refine ⟨rfl, ?_⟩
    simp [dueAt, hstopping]

theorem OnTime.push (h : w.OnTime t) (a : α) : (w.push a).OnTime t := by
  cases hclosed : w.queue.closed with
  | true => rwa [push_of_closed hclosed]
  | false =>
    rw [push_of_open hclosed]
    split <;> exact ⟨h.time_eq, h.le_dueAt⟩

theorem OnTime.stop (h : w.OnTime t) : w.stop.OnTime t := by
  refine ⟨h.time_eq, ?_⟩
  have hle := h.le_dueAt
  have htime := h.time_eq
  unfold dueAt at hle ⊢
  cases hact : w.activity with
  | idle | finished | backingOff => simp [Worker.stop, hact, htime]
  | attempting a retries outcome ends => simpa [Worker.stop, hact] using hle

/-- As long as nothing is due, nothing is missed. -/
theorem OnTime.pass (hquiet : w.step? t' = none) :
    ({ w with time := t' } : Worker α).OnTime t' := by
  refine ⟨rfl, ?_⟩
  unfold dueAt
  cases hact : w.activity with
  | idle | finished => exact Nat.le_refl t'
  | attempting a retries outcome ends =>
    simp only [step?, hact] at hquiet
    split at hquiet
    · cases hquiet
    · exact Nat.le_of_not_lt ‹_›
  | backingOff a retries ends =>
    cases hstopping : w.stopping with
    | true => simp
    | false =>
      simp only [step?, hact, hstopping, Bool.false_eq_true, if_false] at hquiet ⊢
      split at hquiet
      · cases hquiet
      · exact Nat.le_of_not_lt ‹_›

theorem Clocked.onTime (h₀ : w₀.OnTime t₀) (h : Clocked t₀ w₀ past t w) : w.OnTime t := by
  induction h with
  | start => exact h₀
  | push a _ ih => exact ih.push a
  | stop _ ih => exact ih.stop
  | close _ ih => exact ⟨ih.time_eq, ih.le_dueAt⟩
  | event _ hstep ih => exact ih.happened (ih.happens hstep)
  | pass t' _ _ hquiet _ => exact .pass hquiet

/-- The occurrences of a run lie between its beginning and its end. -/
theorem Clocked.time_le (h : Clocked t₀ w₀ past t w) : t₀ ≤ t ∧ ∀ x ∈ past, x.time ≤ t := by
  induction h with
  | start => exact ⟨Nat.le_refl _, fun x hx => by cases hx⟩
  | push _ _ ih | stop _ ih | close _ ih | event _ _ ih =>
    refine ⟨ih.1, List.forall_mem_append.mpr ⟨ih.2, ?_⟩⟩
    exact List.forall_mem_singleton.mpr (Nat.le_refl _)
  | pass t' _ hle _ ih =>
    exact ⟨Nat.le_trans ih.1 hle, fun x hx => Nat.le_trans (ih.2 x hx) hle⟩

/-! ### Attempts -/

theorem Happens.attempts_eq (h : Happens w t happening w') : w'.attempts =
    w.attempts ++ (Occurrence.attempt? ⟨happening, t⟩).toList := by
  cases h with
  | take | retry => rfl
  | finish | deliver | giveUp | backOff | abandon => exact (List.append_nil _).symm

theorem filterMap_concat {β : Type} (f : Occurrence α → Option β) (past : List (Occurrence α))
    (x : Occurrence α) : (past ++ [x]).filterMap f = past.filterMap f ++ (f x).toList := by
  rw [List.filterMap_append]
  cases hx : f x <;> simp [hx]

theorem filterMap_concat_of_none {β : Type} {f : Occurrence α → Option β} {x : Occurrence α}
    (hx : f x = none) (past : List (Occurrence α)) :
    (past ++ [x]).filterMap f = past.filterMap f := by
  rw [filterMap_concat, hx]
  exact List.append_nil _

/-- The attempts of a worker are the occurrences at which it offers a record. -/
theorem Clocked.attempts_eq (h₀ : w₀.OnTime t₀) (h : Clocked t₀ w₀ past t w) :
    w.attempts = w₀.attempts ++ past.filterMap Occurrence.attempt? := by
  induction h with
  | start => exact (List.append_nil _).symm
  | push a _ ih => rw [attempts_push, ih, filterMap_concat_of_none rfl]
  | stop _ ih | close _ ih =>
    rw [filterMap_concat_of_none rfl]
    exact ih
  | event h hstep ih =>
    have hevent := (h.onTime h₀).happens hstep
    rw [hevent.attempts_eq, ih, filterMap_concat, List.append_assoc]
  | pass _ _ _ _ ih => exact ih

/-! ### Workers that are run -/

/-- An event that is due happens when it is due, also if the clock is set to that time. -/
theorem step?_dueAt (hstep : w.step? bound = some w') :
    ({ w with time := w.dueAt } : Worker α).step? (w.dueAt + 1) = some w' := by
  rw [step?_eq_of_lt (dueAt_lt_of_step? hstep)] at hstep
  rw [← hstep]
  -- the clock shows it already, or plays no part
  have hself (hdue : w.dueAt = w.time) :
      ({ w with time := w.dueAt } : Worker α).step? (w.dueAt + 1) = w.step? (w.dueAt + 1) := by
    rw [hdue]
  cases hact : w.activity with
  | idle | finished => exact hact ▸ hself (by rw [dueAt, hact])
  | attempting a retries outcome ends =>
    have hdue : w.dueAt = ends := by rw [dueAt, hact]
    rw [hdue]
    simp only [step?, hact, Nat.lt_succ_self, if_true]
    cases outcome <;> rfl
  | backingOff a retries ends =>
    cases hstopping : w.stopping with
    | true => exact hstopping ▸ hact ▸ hself (by simp [dueAt, hact, hstopping])
    | false =>
      have hdue : w.dueAt = ends := by simp [dueAt, hact, hstopping]
      rw [hdue]
      simp [step?, hact, hstopping, offer]

theorem step?_advance (w : Worker α) (bound : Nat) : (w.advance bound).step? bound = none := by
  induction w using advance.induct bound with
  | case1 w w' h ih => rwa [advance_eq_of_step? h]
  | case2 w h => rwa [advance_eq_self h]

/-- A worker that is run up to some time goes on with its run. -/
theorem Clocked.advance (h₀ : w₀.OnTime t₀) (h : Clocked t₀ w₀ past t w) (hle : t ≤ bound) :
    ∃ more t', t' ≤ bound ∧ (∀ x ∈ more, x.happening.isOwn = true) ∧
      Clocked t₀ w₀ (past ++ more) t' (w.advance (bound + 1)) := by
  induction w using advance.induct (bound + 1) generalizing past t with
  | case1 w w' hstep ih =>
    have hon := h.onTime h₀
    -- nothing happens until the event is due
    have hpass := h.pass w.dueAt hon.le_dueAt (step?_eq_none_of_le (Nat.le_refl _))
    have hevent := hpass.event (step?_dueAt hstep)
    obtain ⟨more, t', hbound, hown, hrest⟩ :=
      ih hevent (Nat.le_of_lt_succ (dueAt_lt_of_step? hstep))
    rw [advance_eq_of_step? hstep]
    rw [List.append_assoc] at hrest
    refine ⟨_, t', hbound, fun x hx => ?_, hrest⟩
    rcases List.mem_append.mp hx with hx | hx
    · rw [List.mem_singleton.mp hx]
      exact isOwn_next _
    · exact hown x hx
  | case2 w hquiet =>
    rw [advance_eq_self hquiet]
    refine ⟨[], t, hle, fun x hx => (by cases hx), ?_⟩
    rwa [List.append_nil]

/-- So does a worker that is told to wait. -/
theorem Clocked.waitUntil (h₀ : w₀.OnTime t₀) (h : Clocked t₀ w₀ past t w) (hle : t ≤ t') :
    ∃ more, (∀ x ∈ more, x.happening.isOwn = true) ∧
      Clocked t₀ w₀ (past ++ more) t' (w.waitUntil t') := by
  obtain ⟨more, t'', hle', hown, hrun⟩ := h.advance h₀ hle
  have hquiet := step?_eq_none_of_none (step?_advance w (t' + 1)) (Nat.le_succ t')
  exact ⟨more, hown, hrun.pass t' hle' hquiet⟩

end Worker

end FlowAudit.Delivery
