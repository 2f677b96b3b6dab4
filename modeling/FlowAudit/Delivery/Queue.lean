/-!
# The queue in front of a sink

A queue holds at most `capacity` items. Adding to a full queue drops its oldest item, so adding never
waits. A closed queue takes nothing more, and is taken from until it is empty.

A `Mailbox` is a queue with the one consumer that takes from it. The consumer waits when there is
nothing to take; adding and closing notify it. A notification that finds nobody waiting is kept as a
permit, one at most, which lets the next waiting end at once; a consumer that is woken always looks
at the queue again, so a permit left from earlier never makes it answer wrongly.
-/

namespace FlowAudit.Delivery

/-- Items in the order they were added, at most `capacity` of them. -/
structure Queue (α : Type) where
  items : List α
  closed : Bool
  capacity : Nat
  deriving DecidableEq, Repr, Inhabited

/-- What became of an item that was to be added. -/
inductive PushOutcome where
  | queued
  /-- The item was added, and the oldest one dropped for it. -/
  | droppedOldest
  /-- The queue is closed; the item was dropped. -/
  | closed
  deriving DecidableEq, Repr, Inhabited

namespace Queue

variable {α : Type}

/-- The empty queue for at most `capacity` items, and for one if that is zero. -/
def empty (capacity : Nat) : Queue α :=
  ⟨[], false, max capacity 1⟩

/-- Adds an item. -/
def push (q : Queue α) (a : α) : PushOutcome × Queue α :=
  if q.closed then (.closed, q)
  else if q.items.length ≥ q.capacity then
    (.droppedOldest, { q with items := q.items.drop 1 ++ [a] })
  else
    (.queued, { q with items := q.items ++ [a] })

/-- Takes nothing more from now on. -/
def close (q : Queue α) : Queue α :=
  { q with closed := true }

/-- What a look at a queue gives to whoever takes from it. -/
inductive Taken (α : Type) where
  | item (a : α)
  /-- The queue is closed and empty. -/
  | finished
  /-- There is nothing to take yet. -/
  | nothing
  deriving DecidableEq, Repr, Inhabited

/-- Takes the oldest item. -/
def take (q : Queue α) : Taken α × Queue α :=
  match q.items with
  | a :: rest => (.item a, { q with items := rest })
  | [] => (if q.closed then .finished else .nothing, q)

end Queue

/-! ### The consumer -/

/-- A queue and its consumer. -/
structure Mailbox (α : Type) where
  queue : Queue α
  /-- Whether the consumer waits for something to take. -/
  waiting : Bool
  /-- Whether a notification is kept. -/
  permit : Bool
  deriving DecidableEq, Repr, Inhabited

namespace Mailbox

variable {α : Type}

/-- An empty queue whose consumer does not wait. -/
def empty (capacity : Nat) : Mailbox α :=
  ⟨.empty capacity, false, false⟩

/-- The consumer looks at the queue; it goes on waiting when there is nothing, unless a kept
notification makes it look again. -/
def look (m : Mailbox α) : Queue.Taken α × Mailbox α :=
  match m.queue.take with
  | (.nothing, queue) => (.nothing, ⟨queue, true, false⟩)
  | (taken, queue) => (taken, ⟨queue, false, m.permit⟩)

/-- Wakes the consumer if it waits, and keeps the notification if not. Answers what a consumer that
was woken got. -/
def notify (m : Mailbox α) : Queue.Taken α × Mailbox α :=
  if m.waiting then m.look else (.nothing, { m with permit := true })

/-- Adds an item; also answers what a waiting consumer got. -/
def push (m : Mailbox α) (a : α) : PushOutcome × Queue.Taken α × Mailbox α :=
  match m.queue.push a with
  | (.closed, _) => (.closed, .nothing, m)
  | (outcome, queue) => (outcome, { m with queue }.notify)

/-- Closes the queue; answers what a waiting consumer got. -/
def close (m : Mailbox α) : Queue.Taken α × Mailbox α :=
  { m with queue := m.queue.close }.notify

end Mailbox

end FlowAudit.Delivery
