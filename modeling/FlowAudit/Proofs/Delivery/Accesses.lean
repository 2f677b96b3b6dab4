import Mathlib.Data.List.Basic
import FlowAudit.Delivery.Queue

/-!
# What goes through a queue

Producers push to a queue and close it, and a consumer pops from it, in any order: each of these is
one access, so whatever they do side by side is a list of accesses. `Queue.after` is the queue that
the accesses leave, and `Queue.along` collects what each of them gives.

Nothing is lost or put in another order on the way. The records that the queue took in are those it
gave away, in this order, and then those it still holds (`accepted_eq`); it gives a record away
either to a pop or to make room for another one. `flow_of_accesses` puts this together with what
every access is answered. An open queue takes in records until it is full and stays full from then on
(`Sound.holdsUpTo`).
-/

namespace FlowAudit.Delivery.Queue

variable {α β : Type} {q : Queue α}

/-- What is done to a queue. -/
inductive Access (α : Type) where
  | push (a : α)
  | pop
  | close
  deriving DecidableEq, Repr

/-- How a record leaves a queue. -/
inductive Removal (α : Type) where
  | popped (a : α)
  /-- It made room for another one. -/
  | dropped (a : α)
  deriving DecidableEq, Repr

namespace Removal

def record : Removal α → α
  | .popped a => a
  | .dropped a => a

def popped? : Removal α → Option α
  | .popped a => some a
  | .dropped _ => none

def dropped? : Removal α → Option α
  | .popped _ => none
  | .dropped a => some a

end Removal

/-- The queue after an access. -/
def serve (q : Queue α) : Access α → Queue α
  | .push a => (q.push a).2
  | .pop => q.take.2
  | .close => q.close

/-- The queue after some accesses. -/
def after (q : Queue α) (accesses : List (Access α)) : Queue α :=
  accesses.foldl serve q

/-- What some accesses leave of a new queue. -/
def reached (capacity : Nat) (past : List (Access α)) : Queue α :=
  (empty capacity).after past

/-- What some accesses give, if `f` is what one access gives to the queue that it meets. -/
def along (f : Queue α → Access α → List β) (q : Queue α) : List (Access α) → List β
  | [] => []
  | x :: rest => f q x ++ along f (q.serve x) rest

/-- The record that an access adds to a queue, if the queue says so. -/
def added (q : Queue α) : Access α → List α
  | .push a => if (q.push a).1 = .closed then [] else [a]
  | .pop => []
  | .close => []

/-- The record that an access removes from a queue, if the queue says so. -/
def removed (q : Queue α) : Access α → List (Removal α)
  | .push a =>
    match (q.push a).1, q.items with
    | .droppedOldest, oldest :: _ => [.dropped oldest]
    | _, _ => []
  | .pop =>
    match q.take.1 with
    | .item a => [.popped a]
    | _ => []
  | .close => []

/-- What a push is answered. -/
def outcomes (q : Queue α) : Access α → List PushOutcome
  | .push a => [(q.push a).1]
  | .pop => []
  | .close => []

/-- The records that a queue takes in. -/
def accepted (q : Queue α) (accesses : List (Access α)) : List α :=
  along added q accesses

/-- The records that leave a queue, in the order in which they do. -/
def removals (q : Queue α) (accesses : List (Access α)) : List (Removal α) :=
  along removed q accesses

theorem along_append (f : Queue α → Access α → List β) (q : Queue α)
    (front back : List (Access α)) :
    along f q (front ++ back) = along f q front ++ along f (q.after front) back := by
  induction front generalizing q with
  | nil => rfl
  | cons x front ih =>
    rw [List.cons_append, along, ih, along, List.append_assoc]
    rfl

theorem after_append (q : Queue α) (front back : List (Access α)) :
    q.after (front ++ back) = (q.after front).after back :=
  List.foldl_append

/-! ### One access -/

/-- A queue has room for one record at least, and holds no more than it may. -/
structure Sound (q : Queue α) : Prop where
  one_le : 1 ≤ q.capacity
  length_le : q.items.length ≤ q.capacity

theorem sound_empty (capacity : Nat) : (empty capacity : Queue α).Sound where
  one_le := Nat.le_max_right capacity 1
  length_le := Nat.zero_le _

theorem push_of_closed (hclosed : q.closed = true) (a : α) : q.push a = (.closed, q) := by
  rw [push, if_pos hclosed]

theorem fst_push_eq_closed_iff {a : α} : (q.push a).1 = .closed ↔ q.closed = true := by
  unfold push
  cases q.closed with
  | true => simp
  | false =>
    rw [if_neg Bool.false_ne_true]
    split <;> simp

theorem push_of_room (hopen : q.closed = false) (hroom : q.items.length < q.capacity) (a : α) :
    q.push a = (.queued, { q with items := q.items ++ [a] }) := by
  have hfull : ¬ q.items.length ≥ q.capacity := Nat.not_le.mpr hroom
  rw [push, hopen, if_neg Bool.false_ne_true, if_neg hfull]

theorem Sound.push_of_full (h : q.Sound) (hopen : q.closed = false)
    (hfull : q.items.length = q.capacity) (a : α) : ∃ oldest rest, q.items = oldest :: rest ∧
      q.push a = (.droppedOldest, { q with items := rest ++ [a] }) := by
  have hone := h.one_le
  cases hitems : q.items with
  | nil =>
    rw [hitems, List.length_nil] at hfull
    omega
  | cons oldest rest =>
    refine ⟨oldest, rest, rfl, ?_⟩
    rw [push, hopen, if_neg Bool.false_ne_true, if_pos (Nat.le_of_eq hfull.symm), hitems]
    rfl

/-- What a push does is one of three things. -/
theorem Sound.push_cases (h : q.Sound) (a : α) :
    (q.closed = true ∧ q.push a = (.closed, q)) ∨
    (q.closed = false ∧ q.items.length < q.capacity ∧
      q.push a = (.queued, { q with items := q.items ++ [a] })) ∨
    (q.closed = false ∧ q.items.length = q.capacity ∧ ∃ oldest rest, q.items = oldest :: rest ∧
      q.push a = (.droppedOldest, { q with items := rest ++ [a] })) := by
  rcases Bool.eq_false_or_eq_true q.closed with hclosed | hopen
  · exact .inl ⟨hclosed, push_of_closed hclosed a⟩
  · rcases Nat.lt_or_eq_of_le h.length_le with hroom | hfull
    · exact .inr (.inl ⟨hopen, hroom, push_of_room hopen hroom a⟩)
    · exact .inr (.inr ⟨hopen, hfull, h.push_of_full hopen hfull a⟩)

/-- A push is answered by what the queue was before. -/
theorem Sound.fst_push (h : q.Sound) (a : α) :
    ((q.push a).1 = .closed ↔ q.closed = true) ∧
    ((q.push a).1 = .queued ↔ q.closed = false ∧ q.items.length < q.capacity) ∧
    ((q.push a).1 = .droppedOldest ↔ q.closed = false ∧ q.items.length = q.capacity) := by
  rcases h.push_cases a with ⟨hclosed, hpush⟩ | ⟨hopen, hroom, hpush⟩ |
    ⟨hopen, hfull, oldest, rest, -, hpush⟩
  · simp [hpush, hclosed]
  · simp [hpush, hopen, hroom, Nat.ne_of_lt hroom]
  · simp [hpush, hopen, hfull]

/-- A record is added behind all others, or not at all; only the oldest one may go for it. -/
theorem Sound.snd_push (h : q.Sound) (a : α) :
    ((q.push a).1 = .closed → (q.push a).2 = q) ∧
    ((q.push a).1 = .queued → (q.push a).2.items = q.items ++ [a] ∧ q.removed (.push a) = []) ∧
    ((q.push a).1 = .droppedOldest → ∃ oldest rest, q.items = oldest :: rest ∧
      (q.push a).2.items = rest ++ [a] ∧ q.removed (.push a) = [.dropped oldest]) := by
  rcases h.push_cases a with ⟨-, hpush⟩ | ⟨-, -, hpush⟩ | ⟨-, -, oldest, rest, hitems, hpush⟩
  · simp [hpush]
  · simp [hpush, removed]
  · simp [hpush, removed, hitems]

theorem take_of_cons {a : α} {rest : List α} (hitems : q.items = a :: rest) :
    q.take = (.item a, { q with items := rest }) := by
  rw [take, hitems]

theorem take_of_nil (hitems : q.items = []) :
    q.take = (if q.closed then .finished else .nothing, q) := by
  rw [take, hitems]

theorem take_eq_finished_iff : q.take.1 = .finished ↔ q.closed = true ∧ q.items = [] := by
  cases hitems : q.items with
  | nil => cases hclosed : q.closed <;> simp [take_of_nil hitems, hclosed]
  | cons a rest => simp [take_of_cons hitems]

theorem take_eq_nothing_iff : q.take.1 = .nothing ↔ q.closed = false ∧ q.items = [] := by
  cases hitems : q.items with
  | nil => cases hclosed : q.closed <;> simp [take_of_nil hitems, hclosed]
  | cons a rest => simp [take_of_cons hitems]

theorem take_eq_item_iff {a : α} : q.take.1 = .item a ↔ ∃ rest, q.items = a :: rest := by
  cases hitems : q.items with
  | nil => cases hclosed : q.closed <;> simp [take_of_nil hitems, hclosed]
  | cons b rest => simp [take_of_cons hitems]

/-- What an access adds comes last, and what it removes has been first. -/
theorem Sound.items_serve (h : q.Sound) (x : Access α) :
    q.items ++ q.added x = (q.removed x).map Removal.record ++ (q.serve x).items := by
  cases x with
  | push a =>
    rcases h.push_cases a with ⟨-, hpush⟩ | ⟨-, -, hpush⟩ | ⟨-, -, oldest, rest, hitems, hpush⟩
    · simp [added, removed, serve, hpush]
    · simp [added, removed, serve, hpush]
    · simp [added, removed, serve, hpush, hitems, Removal.record]
  | pop =>
    cases hitems : q.items with
    | nil => cases hclosed : q.closed <;> simp [added, removed, serve, take, hitems, hclosed]
    | cons a rest => simp [added, removed, serve, take, hitems, Removal.record]
  | close => simp [added, removed, serve, close]

/-- An access removes a record to make room exactly if it is answered so. -/
theorem Sound.length_dropped (h : q.Sound) (x : Access α) :
    ((q.removed x).filterMap Removal.dropped?).length =
      (q.outcomes x).count .droppedOldest := by
  cases x with
  | push a =>
    rcases h.push_cases a with ⟨-, hpush⟩ | ⟨-, -, hpush⟩ | ⟨-, -, oldest, rest, hitems, hpush⟩
    · simp [removed, outcomes, hpush]
    · simp [removed, outcomes, hpush]
    · simp [removed, outcomes, hpush, hitems, Removal.dropped?]
  | pop =>
    simp only [removed, outcomes]
    split <;> simp [Removal.dropped?]
  | close => rfl

theorem capacity_serve (q : Queue α) (x : Access α) : (q.serve x).capacity = q.capacity := by
  cases x with
  | push a =>
    simp only [serve, push]
    split
    · rfl
    · split <;> rfl
  | pop => cases hitems : q.items <;> simp [serve, take, hitems]
  | close => rfl

/-- A queue is closed by its producers only, and stays so. -/
theorem closed_serve (q : Queue α) (x : Access α) :
    (q.serve x).closed = true ↔ q.closed = true ∨ x = .close := by
  cases x with
  | push a =>
    simp only [serve, push]
    split
    · simp
    · split <;> simp
  | pop => cases hitems : q.items <;> simp [serve, take, hitems]
  | close => simp [serve, close]

theorem Sound.serve (h : q.Sound) (x : Access α) : (q.serve x).Sound := by
  have hone := h.one_le
  have hle := h.length_le
  refine ⟨by rwa [capacity_serve], ?_⟩
  rw [capacity_serve]
  cases x with
  | push a =>
    show (q.push a).2.items.length ≤ q.capacity
    rcases h.push_cases a with ⟨-, hpush⟩ | ⟨-, hroom, hpush⟩ | ⟨-, -, oldest, rest, hitems, hpush⟩
    · rwa [hpush]
    · rw [hpush, List.length_append, List.length_singleton]
      omega
    · rw [hitems, List.length_cons] at hle
      rw [hpush, List.length_append, List.length_singleton]
      omega
  | pop =>
    show q.take.2.items.length ≤ q.capacity
    cases hitems : q.items with
    | nil => rwa [take_of_nil hitems]
    | cons a rest =>
      rw [hitems, List.length_cons] at hle
      rw [take_of_cons hitems]
      exact Nat.le_of_succ_le hle
  | close => exact hle

/-! ### Any accesses -/

theorem Sound.after (h : q.Sound) (accesses : List (Access α)) : (q.after accesses).Sound := by
  induction accesses generalizing q with
  | nil => exact h
  | cons x rest ih => exact ih (h.serve x)

theorem capacity_after (q : Queue α) (accesses : List (Access α)) :
    (q.after accesses).capacity = q.capacity := by
  induction accesses generalizing q with
  | nil => rfl
  | cons x rest ih => exact (ih (q.serve x)).trans (capacity_serve q x)

theorem closed_after (q : Queue α) (accesses : List (Access α)) :
    (q.after accesses).closed = true ↔ q.closed = true ∨ .close ∈ accesses := by
  induction accesses generalizing q with
  | nil => simp [after]
  | cons x rest ih =>
    have hrest := ih (q.serve x)
    rw [closed_serve, or_assoc] at hrest
    rw [List.mem_cons, eq_comm (a := Access.close)]
    exact hrest

/-- The records that a queue held and took in are those it gave away and those it holds. -/
theorem Sound.accepted_eq (h : q.Sound) (accesses : List (Access α)) :
    q.items ++ q.accepted accesses =
      (q.removals accesses).map Removal.record ++ (q.after accesses).items := by
  induction accesses generalizing q with
  | nil => exact List.append_nil _
  | cons x rest ih =>
    have hrest := ih (h.serve x)
    calc q.items ++ q.accepted (x :: rest)
        = (q.items ++ q.added x) ++ (q.serve x).accepted rest := by
          rw [List.append_assoc]
          rfl
      _ = (q.removed x).map Removal.record ++
            ((q.serve x).items ++ (q.serve x).accepted rest) := by
          rw [h.items_serve, List.append_assoc]
      _ = (q.removals (x :: rest)).map Removal.record ++ (q.after (x :: rest)).items := by
          rw [hrest, ← List.append_assoc, ← List.map_append]
          rfl

theorem Sound.length_dropped_removals (h : q.Sound) (accesses : List (Access α)) :
    ((q.removals accesses).filterMap Removal.dropped?).length =
      (along outcomes q accesses).count .droppedOldest := by
  induction accesses generalizing q with
  | nil => rfl
  | cons x rest ih =>
    rw [removals, along, List.filterMap_append, List.length_append, h.length_dropped]
    rw [along, List.count_append]
    exact congrArg _ (ih (h.serve x))

/-- A closed queue takes nothing more in. -/
theorem push_after_of_closed (hclosed : q.closed = true) (accesses : List (Access α)) (a : α) :
    (q.after accesses).push a = (.closed, q.after accesses) :=
  push_of_closed ((closed_after q accesses).mpr (.inl hclosed)) a

/-- A queue that is at its end stays as it is. -/
theorem after_of_finished (hclosed : q.closed = true) (hitems : q.items = [])
    (accesses : List (Access α)) : q.after accesses = q := by
  induction accesses with
  | nil => rfl
  | cons x rest ih =>
    have hserve : q.serve x = q := by
      cases x with
      | push a => rw [serve, push_of_closed hclosed]
      | pop => rw [serve, take_of_nil hitems]
      | close => rw [serve, close, ← hclosed]
    rw [after, List.foldl_cons, hserve]
    exact ih

theorem length_removals (removals : List (Removal α)) : removals.length =
    (removals.filterMap Removal.popped?).length + (removals.filterMap Removal.dropped?).length := by
  induction removals with
  | nil => rfl
  | cons r removals ih =>
    cases r with
    | popped a =>
      simp only [List.filterMap_cons, Removal.popped?, Removal.dropped?, List.length_cons, ih]
      omega
    | dropped a =>
      simp only [List.filterMap_cons, Removal.popped?, Removal.dropped?, List.length_cons, ih]
      omega

theorem popped_sublist (removals : List (Removal α)) :
    (removals.filterMap Removal.popped?).Sublist (removals.map Removal.record) := by
  induction removals with
  | nil => exact List.Sublist.refl []
  | cons r removals ih =>
    cases r with
    | popped a => exact ih.cons_cons a
    | dropped a => exact ih.cons a

/-! ### How much a queue holds -/

/-- A queue holds up to `n` records and no more: while it is open, pushes add records until there
are `n`. -/
structure HoldsUpTo (q : Queue α) (n : Nat) : Prop where
  length_le : q.items.length ≤ n
  length_after : q.closed = false → ∀ as : List α,
    (q.after (as.map .push)).items.length = min n (q.items.length + as.length)

/-- A push adds a record to an open queue, unless the queue is full. -/
theorem Sound.length_push (h : q.Sound) (hopen : q.closed = false) (a : α) :
    (q.push a).2.items.length = min q.capacity (q.items.length + 1) := by
  rcases h.push_cases a with ⟨hclosed, -⟩ | ⟨-, hroom, hpush⟩ |
    ⟨-, hfull, oldest, rest, hitems, hpush⟩
  · rw [hopen] at hclosed
    cases hclosed
  · rw [hpush, List.length_append, List.length_singleton]
    omega
  · rw [hitems, List.length_cons] at hfull
    rw [hpush, hitems, List.length_append, List.length_singleton, List.length_cons]
    omega

theorem Sound.length_after_push (h : q.Sound) (hopen : q.closed = false) (as : List α) :
    (q.after (as.map .push)).items.length = min q.capacity (q.items.length + as.length) := by
  induction as generalizing q with
  | nil => exact (Nat.min_eq_right h.length_le).symm
  | cons a as ih =>
    have hstill : (q.serve (.push a)).closed = false := by
      rw [← Bool.not_eq_true, closed_serve, hopen]
      simp
    have hlength : (q.serve (.push a)).items.length = min q.capacity (q.items.length + 1) :=
      h.length_push hopen a
    have hrest := ih (h.serve (.push a)) hstill
    rw [capacity_serve, hlength] at hrest
    calc (q.after ((a :: as).map .push)).items.length
        = min q.capacity (min q.capacity (q.items.length + 1) + as.length) := hrest
      _ = min q.capacity (q.items.length + (a :: as).length) := by
        rw [List.length_cons]
        omega

/-- A queue holds up to its capacity and no more. -/
theorem Sound.holdsUpTo (h : q.Sound) : q.HoldsUpTo q.capacity :=
  ⟨h.length_le, h.length_after_push⟩

/-! ### The whole flow -/

theorem sound_reached (capacity : Nat) (past : List (Access α)) : (reached capacity past).Sound :=
  (sound_empty capacity).after past

theorem reached_append (capacity : Nat) (past future : List (Access α)) :
    reached capacity (past ++ future) = (reached capacity past).after future :=
  after_append _ past future

theorem capacity_reached (capacity : Nat) (past : List (Access α)) :
    (reached capacity past).capacity = max capacity 1 :=
  capacity_after _ past

theorem closed_reached (capacity : Nat) (past : List (Access α)) :
    (reached capacity past).closed = true ↔ .close ∈ past := by
  rw [reached, closed_after]
  exact or_iff_right Bool.false_ne_true

theorem accepted_eq (capacity : Nat) (past : List (Access α)) :
    accepted (empty capacity) past =
      (removals (empty capacity) past).map Removal.record ++ (reached capacity past).items := by
  have haccepted := (sound_empty capacity).accepted_eq past
  rwa [show (empty capacity : Queue α).items = [] from rfl, List.nil_append] at haccepted

/-- Whatever was done to a queue from the start, it holds no more records than it may, and what it
took in is what it gave away and then what it holds. So the records popped are some of those taken
in, in their order and none twice, and each record dropped is one answer of a push that found the
queue full; that record was the oldest one. Once the queue was closed every push is answered so and
leaves it as it is. A pop is given the oldest record, and the end exactly when the queue was closed
and is empty, from then on always. -/
theorem flow_of_accesses (capacity : Nat) (past : List (Access α)) :
    (reached capacity past).items.length ≤ max capacity 1 ∧
    accepted (empty capacity) past =
      (removals (empty capacity) past).map Removal.record ++ (reached capacity past).items ∧
    ((removals (empty capacity) past).filterMap Removal.popped?).Sublist
      (accepted (empty capacity) past) ∧
    (accepted (empty capacity) past).length =
      ((removals (empty capacity) past).filterMap Removal.popped?).length +
      ((removals (empty capacity) past).filterMap Removal.dropped?).length +
      (reached capacity past).items.length ∧
    ((removals (empty capacity) past).filterMap Removal.dropped?).length =
      (along outcomes (empty capacity) past).count .droppedOldest ∧
    (∀ a, (((reached capacity past).push a).1 = .closed ↔ .close ∈ past) ∧
      (((reached capacity past).push a).1 = .queued ↔
        .close ∉ past ∧ (reached capacity past).items.length < max capacity 1) ∧
      (((reached capacity past).push a).1 = .droppedOldest ↔
        .close ∉ past ∧ (reached capacity past).items.length = max capacity 1)) ∧
    (∀ a, (((reached capacity past).push a).1 = .closed →
        ((reached capacity past).push a).2 = reached capacity past) ∧
      (((reached capacity past).push a).1 = .queued →
        ((reached capacity past).push a).2.items = (reached capacity past).items ++ [a] ∧
        (reached capacity past).removed (.push a) = []) ∧
      (((reached capacity past).push a).1 = .droppedOldest →
        ∃ oldest rest, (reached capacity past).items = oldest :: rest ∧
          ((reached capacity past).push a).2.items = rest ++ [a] ∧
          (reached capacity past).removed (.push a) = [.dropped oldest])) ∧
    ((reached capacity past).take.1 = .finished ↔
      .close ∈ past ∧ (reached capacity past).items = []) ∧
    ((reached capacity past).take.1 = .nothing ↔
      .close ∉ past ∧ (reached capacity past).items = []) ∧
    (∀ a, (reached capacity past).take.1 = .item a ↔
      ∃ rest, (reached capacity past).items = a :: rest) ∧
    ∀ future : List (Access α),
      (.close ∈ past → ∀ a, (reached capacity (past ++ future)).push a =
        (.closed, reached capacity (past ++ future))) ∧
      ((reached capacity past).take.1 = .finished →
        (reached capacity (past ++ future)).take.1 = .finished) := by
  have hsound : (reached capacity past).Sound := sound_reached capacity past
  have hcapacity := capacity_reached capacity past
  have hclosed := closed_reached capacity past
  have hopen : (reached capacity past).closed = false ↔ .close ∉ past := by
    rw [← hclosed, Bool.not_eq_true]
  have haccepted := accepted_eq capacity past
  refine ⟨?_, haccepted, ?_, ?_, (sound_empty capacity).length_dropped_removals past, fun a => ?_,
    hsound.snd_push, ?_, ?_, fun a => take_eq_item_iff,
    fun future => ⟨fun hclose a => ?_, fun hend => ?_⟩⟩
  · rw [← hcapacity]
    exact hsound.length_le
  · rw [haccepted]
    exact (popped_sublist _).trans (List.sublist_append_left _ _)
  · rw [haccepted, List.length_append, List.length_map, length_removals]
  · rw [← hcapacity, ← hopen, ← hclosed]
    exact hsound.fst_push a
  · rw [← hclosed]
    exact take_eq_finished_iff
  · rw [← hopen]
    exact take_eq_nothing_iff
  · rw [reached_append]
    exact push_after_of_closed (hclosed.mpr hclose) future a
  · obtain ⟨hc, hitems⟩ := take_eq_finished_iff.mp hend
    rw [reached_append, after_of_finished hc hitems]
    exact hend

/-- A queue for one record, asked for none, drops the first of two records and then ends. -/
example : along outcomes (empty 0) [.push 1, .push 2, .close, .push 3, .pop, .pop] =
      [.queued, .droppedOldest, .closed] ∧
    removals (empty 0) [.push 1, .push 2, .close, .push 3, .pop, .pop] =
      [.dropped 1, .popped 2] := by
  decide

end FlowAudit.Delivery.Queue
