import Mathlib.Data.List.Basic
import FlowAudit.Proofs.Delivery.Clock

/-!
# Workers that are asked to stop

Once a worker is asked to stop it offers no record once more, so its attempts are from then on the
records that it takes from its queue, each offered once (`Clocked.attempts_eq_of_stopping`). If the
request finds it between two attempts, it gives the record up at that very moment, before anything
else that it does by itself (`Clocked.givenUpAt`).

What waits in a closed queue is taken in order and offered, whatever happens in between, and then
the sink is closed (`Clocked.items_eq`, `Clocked.finishedAt`). A worker with a closed queue comes to
its end when it is run for long enough (`exists_isFinished_advance`).
-/

namespace FlowAudit.Delivery.Worker

variable {α : Type} {w w' w₀ : Worker α} {t t₀ : Nat} {past : List (Occurrence α)}
  {happening : Happening α} {a : α} {retries ends : Nat}

theorem push_eq (w : Worker α) (a : α) : ∃ queue droppedOldest,
    w.push a = { w with queue, stats.droppedOldest := droppedOldest } := by
  unfold push
  rcases w.queue.push a with ⟨outcome, queue⟩
  cases outcome with
  | droppedOldest => exact ⟨queue, _, rfl⟩
  | queued | closed => exact ⟨queue, w.stats.droppedOldest, rfl⟩

/-! ### After the request -/

theorem Happens.stopping_eq (h : Happens w t happening w') : w'.stopping = w.stopping := by
  cases h with
  | take | finish | deliver | giveUp | backOff | abandon | retry => rfl

/-- A request to stop is not taken back. -/
theorem Clocked.stopping (h₀ : w₀.OnTime t₀) (hstopping : w₀.stopping = true)
    (h : Clocked t₀ w₀ past t w) : w.stopping = true := by
  induction h with
  | start => exact hstopping
  | @push _ _ w a _ ih =>
    obtain ⟨queue, droppedOldest, heq⟩ := w.push_eq a
    rw [heq]
    exact ih
  | stop => rfl
  | close _ ih => exact ih
  | event h hstep ih => rw [((h.onTime h₀).happens hstep).stopping_eq, ih]
  | pass _ _ _ _ ih => exact ih

theorem Happens.isRetry_eq_false (h : Happens w t happening w') (hstopping : w.stopping = true) :
    happening.isRetry = false := by
  cases h with
  | retry _ _ _ hnot =>
    rw [hstopping] at hnot
    cases hnot
  | take | finish | deliver | giveUp | backOff | abandon => rfl

/-- No record is offered once more after the request to stop. -/
theorem Clocked.isRetry_eq_false (h₀ : w₀.OnTime t₀) (hstopping : w₀.stopping = true)
    (h : Clocked t₀ w₀ past t w) : ∀ x ∈ past, x.happening.isRetry = false := by
  induction h with
  | start => exact fun x hx => by cases hx
  | push _ _ ih | stop _ ih | close _ ih =>
    exact List.forall_mem_append.mpr ⟨ih, List.forall_mem_singleton.mpr rfl⟩
  | event h hstep ih =>
    have hevent := (h.onTime h₀).happens hstep
    have hlast := hevent.isRetry_eq_false (h.stopping h₀ hstopping)
    exact List.forall_mem_append.mpr ⟨ih, List.forall_mem_singleton.mpr hlast⟩
  | pass _ _ _ _ ih => exact ih

theorem attempt?_eq_first? {x : Occurrence α} (hx : x.happening.isRetry = false) :
    x.attempt? = x.first? := by
  obtain ⟨happening, time⟩ := x
  cases happening with
  | retry => cases hx
  | push | stop | close | take | deliver | giveUp | backOff | abandon | finish => rfl

/-- After the request to stop, the attempts are the records taken from the queue, each offered
once. -/
theorem Clocked.attempts_eq_of_stopping (h₀ : w₀.OnTime t₀) (hstopping : w₀.stopping = true)
    (h : Clocked t₀ w₀ past t w) :
    w.attempts = w₀.attempts ++ past.filterMap Occurrence.first? := by
  have hretry := h.isRetry_eq_false h₀ hstopping
  rw [h.attempts_eq h₀, List.filterMap_congr fun x hx => attempt?_eq_first? (hretry x hx)]

/-! ### Between two attempts -/

/-- The next event of a worker that is asked to stop between two attempts is that it gives the
record up. -/
theorem next_of_backingOff (h : w.OnTime t) (hact : w.activity = .backingOff a retries ends)
    (hstopping : w.stopping = true) :
    w.next = .abandon a ∧ w.step? (t + 1) = some (w.giveUp .stopping t) := by
  obtain rfl := h.time_eq
  constructor
  · simp [next, hact, hstopping]
  · simp [step?, hact, hstopping]

/-- At time `t` the worker has given up the record that it held, before anything else that it did by
itself. -/
def GivenUpAt (t : Nat) (a : α) (past : List (Occurrence α)) : Prop :=
  ∃ outside rest, past = outside ++ ⟨.abandon a, t⟩ :: rest ∧
    ∀ x ∈ outside, x.happening.isOwn = false ∧ x.time = t

theorem GivenUpAt.concat (h : GivenUpAt t a past) (x : Occurrence α) :
    GivenUpAt t a (past ++ [x]) := by
  obtain ⟨outside, rest, rfl, houtside⟩ := h
  refine ⟨outside, rest ++ [x], ?_, houtside⟩
  rw [List.append_assoc, List.cons_append]

/-- A worker that is asked to stop between two attempts gives the record up at once: as long as it
has not, no time has passed. -/
theorem Clocked.givenUpAt (h₀ : w₀.OnTime t₀) (hstopping : w₀.stopping = true)
    (hact : w₀.activity = .backingOff a retries ends) (h : Clocked t₀ w₀ past t w) :
    GivenUpAt t₀ a past ∨ t = t₀ ∧ w.activity = .backingOff a retries ends ∧
      ∀ x ∈ past, x.happening.isOwn = false ∧ x.time = t₀ := by
  -- what is done to the worker meanwhile happens at the same time
  have houtside {past : List (Occurrence α)} {happening : Happening α}
      (hown : happening.isOwn = false)
      (hpast : ∀ x ∈ past, x.happening.isOwn = false ∧ x.time = t₀) :
      ∀ x ∈ past ++ [⟨happening, t₀⟩], x.happening.isOwn = false ∧ x.time = t₀ :=
    List.forall_mem_append.mpr ⟨hpast, List.forall_mem_singleton.mpr ⟨hown, rfl⟩⟩
  induction h with
  | start => exact .inr ⟨rfl, hact, fun x hx => by cases hx⟩
  | @push _ _ w a' _ ih =>
    obtain ⟨queue, droppedOldest, heq⟩ := w.push_eq a'
    rcases ih with hgiven | ⟨rfl, hheld, hpast⟩
    · exact .inl (hgiven.concat _)
    · exact .inr ⟨rfl, by rw [heq, hheld], houtside rfl hpast⟩
  | stop _ ih | close _ ih =>
    rcases ih with hgiven | ⟨rfl, hheld, hpast⟩
    · exact .inl (hgiven.concat _)
    · exact .inr ⟨rfl, hheld, houtside rfl hpast⟩
  | @event past _ _ _ h _ ih =>
    rcases ih with hgiven | ⟨rfl, hheld, hpast⟩
    · exact .inl (hgiven.concat _)
    · have hnext := (next_of_backingOff (h.onTime h₀) hheld (h.stopping h₀ hstopping)).1
      rw [hnext]
      exact .inl ⟨past, [], rfl, hpast⟩
  | @pass _ t _ t' h hle hquiet ih =>
    rcases ih with hgiven | ⟨rfl, hheld, hpast⟩
    · exact .inl hgiven
    · -- the record is given up before time passes
      have hstep := (next_of_backingOff (h.onTime h₀) hheld (h.stopping h₀ hstopping)).2
      have htime : t' = t := by
        by_contra hne
        have hlt : t + 1 ≤ t' := Nat.lt_of_le_of_ne hle (Ne.symm hne)
        rw [step?_eq_none_of_none hquiet hlt] at hstep
        cases hstep
      exact .inr ⟨htime, hheld, hpast⟩

/-! ### Records that are taken -/

theorem sublist_push {front pushed : List α} (h : (front ++ w.queue.items).Sublist pushed) (a : α) :
    (front ++ (w.push a).queue.items).Sublist (pushed ++ [a]) := by
  cases hclosed : w.queue.closed with
  | true =>
    rw [push_of_closed hclosed]
    exact h.trans (List.sublist_append_left _ _)
  | false =>
    rw [push_of_open hclosed]
    split
    · -- the oldest record is dropped, and what is left is still in order
      have hdrop := (List.Sublist.refl front).append (List.drop_sublist 1 w.queue.items)
      show (front ++ (w.queue.items.drop 1 ++ [a])).Sublist (pushed ++ [a])
      rw [← List.append_assoc]
      exact (hdrop.trans h).append (List.Sublist.refl [a])
    · show (front ++ (w.queue.items ++ [a])).Sublist (pushed ++ [a])
      rw [← List.append_assoc]
      exact h.append (List.Sublist.refl [a])

theorem Happens.items_eq (h : Happens w t happening w') :
    (Occurrence.first? ⟨happening, t⟩).toList.map Attempt.record ++ w'.queue.items =
      w.queue.items := by
  cases h with
  | take a rest _ hitems => exact hitems.symm
  | finish | deliver | giveUp | backOff | abandon | retry => rfl

theorem Happens.pushed?_eq_none (h : Happens w t happening w') :
    Occurrence.pushed? ⟨happening, t⟩ = none := by
  cases h with
  | take | finish | deliver | giveUp | backOff | abandon | retry => rfl

theorem Happens.closed_eq (h : Happens w t happening w') : w'.queue.closed = w.queue.closed := by
  cases h with
  | take | finish | deliver | giveUp | backOff | abandon | retry => rfl

/-- The records that a worker takes waited in its queue or were added later, and it takes them in
their order, each once. -/
theorem Clocked.sublist (h₀ : w₀.OnTime t₀) (h : Clocked t₀ w₀ past t w) :
    ((past.filterMap Occurrence.first?).map Attempt.record ++ w.queue.items).Sublist
      (w₀.queue.items ++ past.filterMap Occurrence.pushed?) := by
  induction h with
  | start => exact (List.append_nil w₀.queue.items).symm ▸ List.Sublist.refl _
  | push a _ ih =>
    rw [filterMap_concat_of_none rfl, filterMap_concat, ← List.append_assoc]
    exact sublist_push ih a
  | stop _ ih | close _ ih =>
    rw [filterMap_concat_of_none rfl, filterMap_concat_of_none rfl]
    exact ih
  | event h hstep ih =>
    have hevent := (h.onTime h₀).happens hstep
    rw [filterMap_concat, List.map_append, List.append_assoc, hevent.items_eq,
      filterMap_concat_of_none hevent.pushed?_eq_none]
    exact ih
  | pass _ _ _ _ ih => exact ih

/-! ### Behind a closed queue -/

/-- A closed queue stays closed, and what waits in it is taken in order, and nothing else. -/
theorem Clocked.items_eq (h₀ : w₀.OnTime t₀) (hclosed : w₀.queue.closed = true)
    (h : Clocked t₀ w₀ past t w) : w.queue.closed = true ∧
      (past.filterMap Occurrence.first?).map Attempt.record ++ w.queue.items = w₀.queue.items := by
  induction h with
  | start => exact ⟨hclosed, rfl⟩
  | push a _ ih =>
    rw [push_of_closed ih.1, filterMap_concat_of_none rfl]
    exact ih
  | stop _ ih =>
    rw [filterMap_concat_of_none rfl]
    exact ih
  | close _ ih =>
    rw [filterMap_concat_of_none rfl]
    exact ⟨rfl, ih.2⟩
  | event h hstep ih =>
    have hevent := (h.onTime h₀).happens hstep
    rw [hevent.closed_eq, filterMap_concat, List.map_append, List.append_assoc, hevent.items_eq]
    exact ih
  | pass _ _ _ _ ih => exact ih

theorem activity_of_isFinished (h : w.isFinished = true) : w.activity = .finished := by
  unfold isFinished at h
  split at h
  · assumption
  · cases h

theorem step?_of_isFinished (h : w.isFinished = true) (bound : Nat) : w.step? bound = none := by
  rw [step?, activity_of_isFinished h]

/-- At some moment of a run the worker finished, when nothing waited in its queue, and after that it
did nothing more by itself. -/
def FinishedAt (t₀ : Nat) (w₀ : Worker α) (past : List (Occurrence α)) (closedAt : Nat) : Prop :=
  ∃ front back v, past = front ++ ⟨.finish, closedAt⟩ :: back ∧ Clocked t₀ w₀ front closedAt v ∧
    v.queue.items = [] ∧ ∀ x ∈ back, x.happening.isOwn = false

theorem FinishedAt.concat {closedAt : Nat} (h : FinishedAt t₀ w₀ past closedAt) {x : Occurrence α}
    (hx : x.happening.isOwn = false) : FinishedAt t₀ w₀ (past ++ [x]) closedAt := by
  obtain ⟨front, back, v, rfl, hfront, hitems, hback⟩ := h
  refine ⟨front, back ++ [x], v, ?_, hfront, hitems, ?_⟩
  · rw [List.append_assoc, List.cons_append]
  · exact List.forall_mem_append.mpr ⟨hback, List.forall_mem_singleton.mpr hx⟩

/-- The only event after which a worker has finished is that it finishes. -/
theorem Happens.of_isFinished (h : Happens w t happening w') (hfinished : w'.isFinished = true) :
    happening = .finish ∧ w.queue.items = [] ∧ w'.closedAt = some t := by
  cases h with
  | finish _ hitems => exact ⟨rfl, hitems, rfl⟩
  | take | deliver | giveUp | backOff | abandon | retry => cases hfinished

/-- A worker that has finished did so at the time when it closed its sink. -/
theorem Clocked.finishedAt (h₀ : w₀.OnTime t₀) (hopen : w₀.isFinished = false)
    (h : Clocked t₀ w₀ past t w) (hfinished : w.isFinished = true) :
    ∃ closedAt, w.closedAt = some closedAt ∧ FinishedAt t₀ w₀ past closedAt := by
  induction h with
  | start =>
    rw [hopen] at hfinished
    cases hfinished
  | @push _ _ w a _ ih =>
    obtain ⟨queue, droppedOldest, heq⟩ := w.push_eq a
    rw [heq] at hfinished ⊢
    obtain ⟨closedAt, hclosedAt, hpast⟩ := ih hfinished
    exact ⟨closedAt, hclosedAt, hpast.concat rfl⟩
  | stop _ ih | close _ ih =>
    obtain ⟨closedAt, hclosedAt, hpast⟩ := ih hfinished
    exact ⟨closedAt, hclosedAt, hpast.concat rfl⟩
  | @event past t w _ h hstep _ =>
    obtain ⟨hnext, hitems, hclosedAt⟩ := ((h.onTime h₀).happens hstep).of_isFinished hfinished
    rw [hnext]
    exact ⟨t, hclosedAt, past, [], w, rfl, h, hitems, fun x hx => by cases hx⟩
  | pass _ _ _ _ ih => exact ih hfinished

/-- A worker with a closed queue always goes on until it has finished. -/
theorem exists_step? (hclosed : w.queue.closed = true) (hopen : w.isFinished = false) :
    ∃ w', w.step? (w.dueAt + 1) = some w' := by
  cases hact : w.activity with
  | idle =>
    cases hitems : w.queue.items with
    | nil => simp [step?, dueAt, hact, hitems, hclosed]
    | cons a rest => simp [step?, dueAt, hact, hitems]
  | attempting => simp [step?, dueAt, hact]
  | backingOff =>
    cases hstopping : w.stopping with
    | true => simp [step?, dueAt, hact, hstopping]
    | false => simp [step?, dueAt, hact, hstopping]
  | finished => simp [isFinished, hact] at hopen

/-- A worker with a closed queue comes to its end if it is run for long enough. -/
theorem exists_isFinished_advance (hclosed : w.queue.closed = true) :
    ∃ bound, ∀ b, bound ≤ b → (w.advance b).isFinished = true := by
  -- every event makes the load smaller
  generalize hload : w.load = n
  induction n using Nat.strongRecOn generalizing w with
  | ind n ih =>
    cases hopen : w.isFinished with
    | true =>
      refine ⟨0, fun b _ => ?_⟩
      rw [advance_eq_self (step?_of_isFinished hopen b)]
      exact hopen
    | false =>
      obtain ⟨w', hstep⟩ := exists_step? hclosed hopen
      have hlt := load_lt_of_step? hstep
      rw [hload] at hlt
      have hclosed' : w'.queue.closed = true :=
        (queue_event (event_of_step? hstep)).2.trans hclosed
      obtain ⟨bound, hbound⟩ := ih w'.load hlt hclosed' rfl
      refine ⟨max bound (w.dueAt + 1), fun b hb => ?_⟩
      have hdue : w.dueAt < b := Nat.le_trans (Nat.le_max_right _ _) hb
      rw [← step?_eq_of_lt hdue] at hstep
      rw [advance_eq_of_step? hstep]
      exact hbound b (Nat.le_trans (Nat.le_max_left _ _) hb)

/-! ### The rule -/

/-- However a worker is used until it is asked to stop at time `T`, and whatever is done to it
afterwards: no record is offered once more after `T`, and the attempts made after the request are
the records that the worker takes from its queue, one attempt for each; these waited there or were
added later, and are taken in their order, each once. If the request finds the worker waiting
between two attempts for a time after `T`, it gives the record up at `T`, before anything else that
it does by itself.

Once its queue is closed, at any time, the worker comes to its end; until then it takes all that
waits there, in order, with an attempt for each record, and closes its sink when nothing is left. -/
theorem attempts_of_stop (settings : DeliverySettings) (script : List Reaction) :
    (∀ before T w₁ after t w, Clocked 0 (new settings script : Worker α) before T w₁ →
      Clocked T w₁.stop after t w →
      (∀ x ∈ before ++ after, x.happening.isRetry = true → x.time ≤ T) ∧
      w.attempts = before.filterMap Occurrence.attempt? ++ after.filterMap Occurrence.first? ∧
      ((after.filterMap Occurrence.first?).map Attempt.record ++ w.queue.items).Sublist
        (w₁.queue.items ++ after.filterMap Occurrence.pushed?) ∧
      ∀ a retries ends, w₁.activity = .backingOff a retries ends → T < ends →
        w₁.stop.step? (T + 1) = some (w₁.stop.giveUp .stopping T) ∧
        (GivenUpAt T a after ∨ t = T ∧ w.activity = .backingOff a retries ends ∧
          ∀ x ∈ after, x.happening.isOwn = false ∧ x.time = T)) ∧
    ∀ past t w, Clocked 0 (new settings script : Worker α) past t w → w.queue.closed = true →
      (∃ bound, ∀ b, bound ≤ b → (w.advance b).isFinished = true) ∧
      ∀ more t' w', Clocked t w more t' w' →
        w'.attempts = w.attempts ++ more.filterMap Occurrence.attempt? ∧
        (more.filterMap Occurrence.first?).map Attempt.record ++ w'.queue.items = w.queue.items ∧
        (w.isFinished = false → w'.isFinished = true → ∃ front closedAt back,
          more = front ++ ⟨.finish, closedAt⟩ :: back ∧ w'.closedAt = some closedAt ∧
          (front.filterMap Occurrence.first?).map Attempt.record = w.queue.items ∧
          ∀ x ∈ back, x.happening.isOwn = false) := by
  have hnew := onTime_new (α := α) settings script
  refine ⟨?_, ?_⟩
  · intro before T w₁ after t w hbefore hafter
    have hstop := (hbefore.onTime hnew).stop
    have htaken := hafter.sublist hstop
    refine ⟨?_, ?_, htaken, ?_⟩
    · have hretry := hafter.isRetry_eq_false hstop rfl
      refine List.forall_mem_append.mpr ⟨fun x hx _ => hbefore.time_le.2 x hx, fun x hx hx' => ?_⟩
      rw [hretry x hx] at hx'
      cases hx'
    · rw [hafter.attempts_eq_of_stopping hstop rfl]
      exact congrArg (· ++ _) (hbefore.attempts_eq hnew)
    · intro a retries ends hact _
      exact ⟨(next_of_backingOff hstop hact rfl).2, hafter.givenUpAt hstop rfl hact⟩
  · intro past t w hpast hclosed
    have hon := hpast.onTime hnew
    refine ⟨exists_isFinished_advance hclosed, fun more t' w' hmore => ?_⟩
    refine ⟨hmore.attempts_eq hon, (hmore.items_eq hon hclosed).2, fun hopen hfinished => ?_⟩
    obtain ⟨closedAt, hclosedAt, front, back, v, rfl, hfront, hitems, hback⟩ :=
      hmore.finishedAt hon hopen hfinished
    refine ⟨front, closedAt, back, rfl, hclosedAt, ?_, hback⟩
    have htaken := (hfront.items_eq hon hclosed).2
    rwa [hitems, List.append_nil] at htaken

/-! ### A request between two attempts -/

/-- Two records are added, of which the first one is to be offered once more when the worker is
asked to stop. A third one is added before the queue is closed. -/
theorem attempts_of_interrupted : ∃ before w₁ after t w,
    Clocked 0 (new {} [.answer .retryLater 0] : Worker Nat) before 5 w₁ ∧
      w₁.activity = .backingOff 1 1 200 ∧ Clocked 5 w₁.stop after t w ∧ w.isFinished = true ∧
      w₁.stop.step? 6 = some (w₁.stop.giveUp .stopping 5) ∧ GivenUpAt 5 1 after ∧
      (∀ x ∈ before ++ after, x.happening.isRetry = true → x.time ≤ 5) ∧
      w.attempts = [⟨1, 0⟩, ⟨2, 5⟩, ⟨3, 5⟩] := by
  have hnew : Clocked 0 (new {} [.answer .retryLater 0] : Worker Nat) [] 0 _ := .start
  have htried := (((hnew.push 1).push 2).event rfl).event rfl
  have hbefore := htried.pass 5 (by decide) rfl
  have hstop {before : List (Occurrence Nat)} {w₁ : Worker Nat}
      (_ : Clocked 0 (new {} [.answer .retryLater 0]) before 5 w₁) :
      Clocked 5 w₁.stop [] 5 w₁.stop := .start
  have hgiven := ((hstop hbefore).event rfl).push 3
  have hsecond := ((hgiven.event rfl).event rfl).close
  have hafter := ((hsecond.event rfl).event rfl).event rfl
  obtain ⟨hretry, hattempts, -, hheld⟩ := (attempts_of_stop {} _).1 _ _ _ _ _ _ hbefore hafter
  obtain ⟨hstep, hgivenUp | ⟨-, hact, -⟩⟩ := hheld 1 1 200 rfl (by decide)
  · exact ⟨_, _, _, _, _, hbefore, rfl, hafter, rfl, hstep, hgivenUp, hretry, hattempts⟩
  · cases hact

end FlowAudit.Delivery.Worker
