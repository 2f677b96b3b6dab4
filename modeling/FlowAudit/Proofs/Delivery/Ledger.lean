import Mathlib.Data.List.Basic
import FlowAudit.Proofs.Delivery.Event

/-!
# What became of the records of a worker

A `Worker.Ledger` accounts for all records that the queue of a worker took in: in their order, some
were dropped from the full queue, some were tried, and the others wait in the queue. A record that
was tried was delivered or given up, or it is the one that the worker holds.

Every event keeps the ledger (`Worker.Ledger.event`), and so does whatever is done to the worker
from outside, at any time: another record, the request to stop, the end of the queue.
-/

namespace FlowAudit.Delivery.Worker

variable {α : Type} {w w' : Worker α} {accepted : List α} {tries : List (α × Nat)}

/-- The record that a worker holds. -/
def inFlight (w : Worker α) : List α :=
  match w.activity with
  | .attempting a _ _ _ => [a]
  | .backingOff a _ _ => [a]
  | .idle => []
  | .finished => []

/-- What a worker is doing fits to the records it tried: the one that it holds was tried last, with
the retries made so far. -/
def Holds (tries : List (α × Nat)) : Activity α → Prop
  | .attempting a retries _ _ => ∃ front, tries = front ++ [(a, retries)]
  | .backingOff a retries _ => ∃ front n, retries = n + 1 ∧ tries = front ++ [(a, n)]
  | .idle => True
  | .finished => True

/-- The records that were tried and retried so many times, each as often as it was offered. -/
def offers (tries : List (α × Nat)) : List α :=
  tries.flatMap fun x => List.replicate (x.2 + 1) x.1

theorem offers_append (tries tries' : List (α × Nat)) :
    offers (tries ++ tries') = offers tries ++ offers tries' :=
  List.flatMap_append

@[simp] theorem offers_singleton (a : α) (n : Nat) :
    offers [(a, n)] = List.replicate (n + 1) a := by
  simp [offers]

/-- The records that the queue of a worker took in are accounted for; `tries` are those that were
taken from it, with the number of retries. -/
structure Ledger (w : Worker α) (accepted : List α) (tries : List (α × Nat)) : Prop where
  attempts_eq : w.attempts.map Attempt.record = offers tries
  sublist : (tries.map Prod.fst ++ w.queue.items).Sublist accepted
  length_accepted : accepted.length =
    tries.length + w.stats.droppedOldest + w.queue.items.length
  length_tries : tries.length =
    w.stats.delivered + w.stats.droppedPermanent + w.inFlight.length
  holds : Holds tries w.activity
  length_le : w.queue.items.length ≤ w.queue.capacity
  of_finished : w.activity = .finished → w.queue.closed = true ∧ w.queue.items = []

theorem ledger_new (settings : DeliverySettings) (script : List Reaction) :
    (new settings script : Worker α).Ledger [] [] where
  attempts_eq := rfl
  sublist := List.Sublist.refl []
  length_accepted := rfl
  length_tries := rfl
  holds := trivial
  length_le := Nat.zero_le _
  of_finished h := by cases h

theorem length_inFlight_le (w : Worker α) : w.inFlight.length ≤ 1 := by
  unfold inFlight
  split <;> simp

/-! ### What is done to a worker -/

theorem push_of_open (hopen : w.queue.closed = false) (a : α) :
    w.push a = if w.queue.capacity ≤ w.queue.items.length then
        { w with
          queue.items := w.queue.items.drop 1 ++ [a]
          stats.droppedOldest := w.stats.droppedOldest + 1 }
      else { w with queue.items := w.queue.items ++ [a] } := by
  unfold push Queue.push
  by_cases hfull : w.queue.capacity ≤ w.queue.items.length
  · simp [hopen, hfull]
  · simp [hopen, hfull]

/-- A closed queue takes nothing more. -/
theorem push_of_closed (hclosed : w.queue.closed = true) (a : α) : w.push a = w := by
  simp [push, Queue.push, hclosed]

namespace Ledger

/-- A record that an open queue takes in is accounted for, even if the oldest one is dropped for
it. -/
theorem push (h : w.Ledger accepted tries) (hopen : w.queue.closed = false)
    (hcap : 1 ≤ w.queue.capacity) (a : α) : (w.push a).Ledger (accepted ++ [a]) tries := by
  -- a worker finishes only behind a closed queue
  have hunfinished : w.activity ≠ .finished := by
    intro hfinished
    have hclosed := (h.of_finished hfinished).1
    rw [hopen] at hclosed
    cases hclosed
  have hle := h.length_le
  have hlength := h.length_accepted
  rw [push_of_open hopen]
  split
  · -- the oldest record is dropped, and what is left is still in order
    rename_i hfull
    refine ⟨h.attempts_eq, ?_, ?_, h.length_tries, h.holds, ?_, fun hf => absurd hf hunfinished⟩
    · rw [← List.append_assoc]
      refine List.Sublist.append ?_ (List.Sublist.refl [a])
      exact ((List.Sublist.refl _).append (List.drop_sublist 1 _)).trans h.sublist
    · simp only [List.length_append, List.length_drop, List.length_singleton]
      omega
    · simp only [List.length_append, List.length_drop, List.length_singleton]
      omega
  · rename_i hroom
    refine ⟨h.attempts_eq, ?_, ?_, h.length_tries, h.holds, ?_, fun hf => absurd hf hunfinished⟩
    · rw [← List.append_assoc]
      exact h.sublist.append (List.Sublist.refl [a])
    · simp only [List.length_append, List.length_singleton]
      omega
    · simp only [List.length_append, List.length_singleton]
      omega

theorem stop (h : w.Ledger accepted tries) : w.stop.Ledger accepted tries :=
  ⟨h.attempts_eq, h.sublist, h.length_accepted, h.length_tries, h.holds, h.length_le, h.of_finished⟩

theorem close (h : w.Ledger accepted tries) : w.close.Ledger accepted tries :=
  ⟨h.attempts_eq, h.sublist, h.length_accepted, h.length_tries, h.holds, h.length_le,
    fun hf => ⟨rfl, (h.of_finished hf).2⟩⟩

/-- The clock has no part in the ledger. -/
theorem clock (h : w.Ledger accepted tries) (t : Nat) :
    ({ w with time := t } : Worker α).Ledger accepted tries :=
  ⟨h.attempts_eq, h.sublist, h.length_accepted, h.length_tries, h.holds, h.length_le, h.of_finished⟩

/-! ### What a worker does by itself -/

/-- A record that is taken from the queue is tried for the first time. -/
theorem take (h : w.Ledger accepted tries) {a : α} {rest : List α} (hidle : w.activity = .idle)
    (hitems : w.queue.items = a :: rest) (t : Nat) :
    (({ w with queue.items := rest } : Worker α).offer a 0 t).Ledger accepted
      (tries ++ [(a, 0)]) := by
  have hlength := h.length_accepted
  have htries := h.length_tries
  have hle := h.length_le
  simp only [inFlight, hidle, hitems, List.length_nil, List.length_cons] at hlength htries hle
  refine ⟨?_, ?_, ?_, ?_, ⟨tries, rfl⟩, ?_, fun hf => by cases hf⟩
  · rw [attempts_offer, List.map_append, h.attempts_eq, offers_append, offers_singleton]
    rfl
  · have hsub := h.sublist
    rw [hitems] at hsub
    simpa using hsub
  · simp only [stats_offer, queue_offer, List.length_append, List.length_singleton]
    omega
  · simp only [inFlight, offer, List.length_append, List.length_singleton]
    omega
  · simp only [queue_offer]
    omega

/-- A record that is held is tried once more. -/
theorem retry (h : w.Ledger accepted tries) {a : α} {retries ends : Nat}
    (hact : w.activity = .backingOff a retries ends) :
    ∃ tries', (w.offer a retries ends).Ledger accepted tries' := by
  -- the record was tried last, and now has one more retry
  have hholds := h.holds
  rw [hact] at hholds
  obtain ⟨front, n, rfl, rfl⟩ := hholds
  have hlength := h.length_accepted
  have htries := h.length_tries
  have hsub := h.sublist
  simp only [inFlight, hact, List.length_append, List.length_singleton] at hlength htries
  rw [List.map_append] at hsub
  refine ⟨front ++ [(a, n + 1)], ?_, ?_, ?_, ?_, ⟨front, rfl⟩, h.length_le, fun hf => by cases hf⟩
  · rw [attempts_offer, List.map_append, h.attempts_eq, offers_append, offers_append,
      offers_singleton, offers_singleton, List.append_assoc, List.replicate_succ' (n := n + 1)]
    rfl
  · rw [List.map_append]
    exact hsub
  · simp only [stats_offer, queue_offer, List.length_append, List.length_singleton]
    omega
  · simp only [inFlight, offer, List.length_append, List.length_singleton]
    omega

/-- A record that is held and given up is accounted for as such. -/
theorem giveUp (h : w.Ledger accepted tries) {a : α} (hheld : w.inFlight = [a])
    (reason : GiveUp) (t : Nat) : (w.giveUp reason t).Ledger accepted tries := by
  have htries := h.length_tries
  rw [hheld, List.length_singleton] at htries
  refine ⟨h.attempts_eq, h.sublist, h.length_accepted, ?_, trivial, h.length_le,
    fun hf => by cases hf⟩
  simp only [stats_giveUp, inFlight, activity_giveUp, List.length_nil]
  omega

/-- Every event keeps the ledger. -/
theorem event {bound : Nat} (h : w.Ledger accepted tries) (hevent : w.Event bound w') :
    ∃ tries', w'.Ledger accepted tries' := by
  have htries := h.length_tries
  have hholds := h.holds
  cases hevent with
  | take a rest hidle _ hitems => exact ⟨_, h.take hidle hitems w.time⟩
  | finish hidle _ hitems hclosed =>
    rw [inFlight, hidle] at htries
    exact ⟨tries, h.attempts_eq, h.sublist, h.length_accepted, htries, trivial, h.length_le,
      fun _ => ⟨hclosed, hitems⟩⟩
  | deliver a retries ends hact =>
    rw [inFlight, hact, List.length_singleton] at htries
    refine ⟨tries, h.attempts_eq, h.sublist, h.length_accepted, ?_, trivial, h.length_le,
      fun hf => by cases hf⟩
    simp only [inFlight, List.length_nil]
    omega
  | giveUp a retries outcome ends reason hact =>
    exact ⟨tries, h.giveUp (by rw [inFlight, hact]) reason ends⟩
  | backOff a retries ends hact =>
    rw [hact] at hholds
    rw [inFlight, hact] at htries
    obtain ⟨front, rfl⟩ := hholds
    exact ⟨_, h.attempts_eq, h.sublist, h.length_accepted, htries, ⟨front, retries, rfl, rfl⟩,
      h.length_le, fun hf => by cases hf⟩
  | abandon a retries ends hact =>
    exact ⟨tries, h.giveUp (by rw [inFlight, hact]) .stopping w.time⟩
  | retry a retries ends hact => exact h.retry hact

end Ledger

end FlowAudit.Delivery.Worker
