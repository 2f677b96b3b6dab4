import Std.Data.HashMap

/-!
# Maps of bounded size

A `Bounded` map holds at most `capacity` entries. Inserting a new key into a full map drops the entry
that was inserted longest ago; inserting a key anew makes it the youngest.

Each insertion takes the next stamp and appends a slot with it to `order`; the entry keeps its stamp.
A slot whose stamp is not that of its key's entry is stale: the key was inserted again or removed
since. Stale slots are skipped when the oldest entry is looked for, and swept out when they are many
more than the entries (`Bounded.sweep`), which keeps `order` no longer than a multiple of the map.
-/

namespace FlowAudit

/-- The place of an insertion in the order of all insertions. -/
structure Slot (κ : Type) where
  stamp : Nat
  key : κ
  deriving DecidableEq, Repr, Inhabited

/-- A value with the stamp of its insertion. -/
structure Stamped (α : Type) where
  stamp : Nat
  value : α
  deriving DecidableEq, Repr, Inhabited

/-- A map that holds at most `capacity` entries and forgets the oldest ones. -/
structure Bounded (κ α : Type) [BEq κ] [Hashable κ] where
  entries : Std.HashMap κ (Stamped α)
  /-- The insertions, the oldest first; some of them may be stale. -/
  order : List (Slot κ)
  capacity : Nat
  /-- The stamp of the last insertion. -/
  stamp : Nat

namespace Bounded

variable {κ α : Type} [BEq κ] [Hashable κ]

/-- The empty map for at most `capacity` entries, and for one if that is zero. -/
def empty (capacity : Nat) : Bounded κ α where
  entries := ∅
  order := []
  capacity := max capacity 1
  stamp := 0

/-- The number of entries. -/
def size (m : Bounded κ α) : Nat :=
  m.entries.size

/-- Whether there is no entry. -/
def isEmpty (m : Bounded κ α) : Bool :=
  m.entries.isEmpty

/-- The value of a key. -/
def get? (m : Bounded κ α) (k : κ) : Option α :=
  m.entries[k]?.map Stamped.value

/-- Whether a slot belongs to the present entry of its key. -/
def isCurrent (entries : Std.HashMap κ (Stamped α)) (s : Slot κ) : Bool :=
  match entries[s.key]? with
  | some e => e.stamp = s.stamp
  | none => false

/-- The number of slots from which on stale ones are swept out. -/
def slotLimit (size : Nat) : Nat :=
  size * 2 + 16

/-- Sweeps stale slots out if there are too many slots. -/
def sweep (m : Bounded κ α) : Bounded κ α :=
  if m.order.length > slotLimit m.entries.size then
    { m with order := m.order.filter (isCurrent m.entries) }
  else
    m

/-- The first slot that is not stale, and those behind it. -/
def oldest? (entries : Std.HashMap κ (Stamped α)) : List (Slot κ) → Option (Slot κ × List (Slot κ))
  | [] => none
  | s :: rest => if isCurrent entries s then some (s, rest) else oldest? entries rest

/-- Drops the oldest entry. -/
def evict (m : Bounded κ α) : Option (κ × α) × Bounded κ α :=
  match oldest? m.entries m.order with
  | none => (none, { m with order := [] })
  | some (s, rest) =>
    ((m.get? s.key).map fun v => (s.key, v),
      { m with entries := m.entries.erase s.key, order := rest })

/-- Gives a key a value; a new key in a full map takes the place of the oldest entry, which is
answered. -/
def insert (m : Bounded κ α) (k : κ) (v : α) : Option (κ × α) × Bounded κ α :=
  let stamp := m.stamp + 1
  let inserted : Bounded κ α :=
    { m with
      entries := m.entries.insert k ⟨stamp, v⟩
      order := m.order ++ [⟨stamp, k⟩]
      stamp := stamp }
  if m.entries.contains k then (none, inserted.sweep)
  else if inserted.size > m.capacity then inserted.evict
  else (none, inserted)

/-- Changes the value of a key, which keeps its age. -/
def modify (m : Bounded κ α) (k : κ) (f : α → α) : Bounded κ α :=
  match m.entries[k]? with
  | some e => { m with entries := m.entries.insert k { e with value := f e.value } }
  | none => m

/-- Removes a key and answers the value it had. -/
def remove (m : Bounded κ α) (k : κ) : Option α × Bounded κ α :=
  match m.entries[k]? with
  | some e => (some e.value, ({ m with entries := m.entries.erase k } : Bounded κ α).sweep)
  | none => (none, m)

end Bounded

end FlowAudit
