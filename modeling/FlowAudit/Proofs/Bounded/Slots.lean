import FlowAudit.Proofs.Bounded.Reference

/-!
# The slots of a bounded map

Whatever is done to a bounded map, its slots stand in the order of their stamps, the stamp of an
entry is on one slot and no other, and there are at most sixteen slots more than twice as many as
there are entries (`slots_of_after`). So the memory that a map takes is bounded by its capacity,
however often keys come and go.

Every operation keeps `Bounded.Valid`, which bounds the slots by the entries (`Valid.perform`), and
so does a run of them (`Valid.after`). That no other slot has the stamp of an entry follows from the
order of the slots (`Consistent.filter_stamp_eq`). Evicting uses up the slots as far as the first
one that is not stale (`IsOldest.evict_eq`), and there is one as long as there are entries. Where a
new key made the map too large this is the slot of another key (`Consistent.isOldest_put`), so the
slot of the new key is left (`Valid.evict_put`).

Stamps are numbers without a bound. Every insertion takes one and nothing else does (`stamp_after`),
so that they fit in words of 64 bits in every run of less than `2 ^ 64` insertions.
-/

namespace FlowAudit

/-- Whether an operation is an insertion. -/
def MapOperation.isInsert {κ α : Type} : MapOperation κ α → Bool
  | .insert _ _ => true
  | .get _ | .modify _ _ | .remove _ => false

namespace Bounded

variable {κ α : Type} [BEq κ] [Hashable κ] {m : Bounded κ α}

/-! ### Stamps -/

@[simp] theorem stamp_sweep (m : Bounded κ α) : m.sweep.stamp = m.stamp := by
  unfold sweep
  split <;> rfl

@[simp] theorem stamp_evict (m : Bounded κ α) : m.evict.2.stamp = m.stamp := by
  rw [evict_eq]
  split <;> rfl

theorem stamp_insert (m : Bounded κ α) (k : κ) (v : α) :
    (m.insert k v).2.stamp = m.stamp + 1 := by
  rw [insert_eq]
  split
  · exact stamp_sweep _
  · split
    · exact stamp_evict _
    · rfl

/-- An insertion uses up a stamp, and nothing else does. -/
theorem stamp_perform (m : Bounded κ α) (op : MapOperation κ α) :
    (m.perform op).2.stamp = m.stamp + if op.isInsert then 1 else 0 := by
  cases op with
  | insert k v => exact m.stamp_insert k v
  | get k => rfl
  | modify k f =>
    simp only [perform, modify]
    split <;> rfl
  | remove k =>
    simp only [perform, remove]
    split
    · exact stamp_sweep _
    · rfl

/-- The stamp of the last insertion counts the insertions. -/
theorem stamp_after (m : Bounded κ α) (ops : List (MapOperation κ α)) :
    (m.after ops).stamp = m.stamp + ops.countP MapOperation.isInsert := by
  induction ops generalizing m with
  | nil => rfl
  | cons op ops ih =>
    have hrest := ih (m.perform op).2
    rw [stamp_perform] at hrest
    rw [List.countP_cons]
    exact hrest.trans (by omega)

/-! ### The slot of an entry -/

/-- One slot has the stamp of an entry, and it is a slot of its key. -/
theorem Consistent.filter_stamp_eq (h : m.Consistent) {k : κ} {e : Stamped α}
    (he : m.entries[k]? = some e) :
    m.order.filter (fun s => s.stamp = e.stamp) = [⟨e.stamp, k⟩] := by
  obtain ⟨older, younger, hsplit⟩ := List.append_of_mem (h.slot_mem k e he)
  have hsorted := h.sorted
  rw [hsplit, List.pairwise_append, List.pairwise_cons] at hsorted
  obtain ⟨-, ⟨hyounger, -⟩, holder⟩ := hsorted
  -- the stamps in front of the slot are smaller, and those behind it are larger
  have hfront : older.filter (fun s => s.stamp = e.stamp) = [] := by
    rw [List.filter_eq_nil_iff]
    intro s hs
    simpa using Nat.ne_of_lt (holder s hs _ List.mem_cons_self)
  have hback : younger.filter (fun s => s.stamp = e.stamp) = [] := by
    rw [List.filter_eq_nil_iff]
    intro s hs
    simpa using Nat.ne_of_gt (hyounger s hs)
  rw [hsplit, List.filter_append, List.filter_cons_of_pos (by simp), hfront, hback, List.nil_append]

/-! ### Evicting -/

variable [LawfulBEq κ]

/-- A new entry makes the older slots of its key stale, and no others. -/
theorem isCurrent_insert {entries : Std.HashMap κ (Stamped α)} {s : Slot κ} {t : Nat}
    (hs : s.stamp ≠ t) (k : κ) (v : α) :
    isCurrent (entries.insert k ⟨t, v⟩) s = (isCurrent entries s && s.key != k) := by
  unfold isCurrent
  rw [Std.HashMap.getElem?_insert]
  by_cases hk : k = s.key
  · simp [hk, Ne.symm hs]
  · simp [hk, Ne.symm hk]

/-- The oldest entry stays the oldest when another key is inserted, whose slot is the last one. -/
theorem Consistent.isOldest_put (h : m.Consistent) {stale rest : List (Slot κ)} {s : Slot κ}
    {k : κ} {x : α} (holdest : m.IsOldest stale s rest x) (hne : s.key ≠ k) (v : α) :
    (m.put k v).IsOldest stale s (rest ++ [⟨m.stamp + 1, k⟩]) x where
  order_eq := by rw [Bounded.put, holdest.order_eq, List.append_assoc, List.cons_append]
  stale_of_mem t ht := by
    have hmem : t ∈ m.order := by
      rw [holdest.order_eq]
      exact List.mem_append_left _ ht
    -- the new stamp is larger than all others
    have hstamp : t.stamp ≠ m.stamp + 1 := Nat.ne_of_lt (Nat.lt_succ_of_le (h.stamp_le t hmem))
    rw [Bounded.put, isCurrent_insert hstamp, holdest.stale_of_mem t ht, Bool.false_and]
  entry_eq := by
    rw [Bounded.put, Std.HashMap.getElem?_insert, if_neg (by simpa using Ne.symm hne),
      holdest.entry_eq]

/-- Only a new key makes a map too large. -/
theorem Valid.contains_eq_false_of_lt (h : m.Valid) {k : κ} {v : α}
    (hfull : m.capacity < (m.put k v).size) : m.entries.contains k = false := by
  rw [size_put] at hfull
  split at hfull
  · exact absurd h.size_le (Nat.not_le.mpr hfull)
  · rename_i hk
    simpa using hk

/-- An insertion that makes the map too large evicts. -/
theorem Valid.insert_eq_evict (h : m.Valid) {k : κ} {v : α}
    (hfull : m.capacity < (m.put k v).size) : m.insert k v = (m.put k v).evict := by
  rw [insert_eq, if_neg (by simp [h.contains_eq_false_of_lt hfull]), if_pos hfull]

/-- A map that an insertion made too large has a slot that is not stale in front of the one of the
new key, and evicting ends there. -/
theorem Valid.evict_put (h : m.Valid) {k : κ} {v : α} (hfull : m.capacity < (m.put k v).size) :
    ∃ stale s rest x, m.order = stale ++ s :: rest ∧
      (∀ t ∈ stale, isCurrent (m.put k v).entries t = false) ∧
      m.entries[s.key]? = some ⟨s.stamp, x⟩ ∧ s.key ≠ k ∧
      (m.put k v).evict = (some (s.key, x), { m.put k v with
        entries := (m.put k v).entries.erase s.key, order := rest ++ [⟨m.stamp + 1, k⟩] }) := by
  have hnew := h.contains_eq_false_of_lt hfull
  have hne : m.toList ≠ [] := by
    have hone := h.one_le_capacity
    rw [size_put, if_neg (by simp [hnew])] at hfull
    rw [← List.length_pos_iff, h.length_toList]
    omega
  obtain ⟨stale, s, rest, x, holdest⟩ := exists_isOldest hne
  have hkey : s.key ≠ k := by
    rintro rfl
    rw [Std.HashMap.contains_eq_isSome_getElem?, holdest.entry_eq] at hnew
    cases hnew
  have hput := h.isOldest_put holdest hkey v
  exact ⟨stale, s, rest, x, holdest.order_eq, hput.stale_of_mem, holdest.entry_eq, hkey,
    hput.evict_eq⟩

/-! ### Runs -/

/-- An operation keeps the invariant of the representation. -/
theorem Valid.perform (h : m.Valid) (op : MapOperation κ α) :
    (m.perform op).2.capacity = m.capacity ∧ (m.perform op).2.Valid := by
  cases op with
  | insert k v => exact (h.insert k v).2.2
  | get k => exact ⟨rfl, h⟩
  | modify k f => exact (h.modify k f).2
  | remove k => exact (h.remove k).2

theorem Valid.after (h : m.Valid) (ops : List (MapOperation κ α)) :
    (m.after ops).capacity = m.capacity ∧ (m.after ops).Valid := by
  induction ops generalizing m with
  | nil => exact ⟨rfl, h⟩
  | cons op ops ih =>
    obtain ⟨hcapacity, hvalid⟩ := h.perform op
    obtain ⟨hcapacity', hvalid'⟩ := ih hvalid
    exact ⟨hcapacity'.trans hcapacity, hvalid'⟩

/-- After any sequence of operations the slots stand in the order of their stamps, which number the
insertions; the stamp of an entry is on one slot and no other, a slot of its key; and there are at
most sixteen slots more than twice as many as there are entries. There are never more entries than
the capacity, so it bounds the slots as well. An insertion exceeds these bounds by one slot and one
entry at most, until it evicts. Where it evicts, it finds a slot that is not stale while the slot of
the new key is still left. -/
theorem slots_of_after {capacity : Nat} {ops : List (MapOperation κ α)} {m : Bounded κ α}
    (hm : (empty capacity).after ops = m) :
    m.order.Pairwise (fun s t => s.stamp < t.stamp) ∧
      (∀ k e, m.entries[k]? = some e →
        m.order.filter (fun s => s.stamp = e.stamp) = [⟨e.stamp, k⟩]) ∧
      m.order.length ≤ 2 * m.size + 16 ∧
      (m.stamp = ops.countP MapOperation.isInsert ∧ ∀ s ∈ m.order, s.stamp ≤ m.stamp) ∧
      (m.size ≤ max capacity 1 ∧ m.order.length ≤ 2 * max capacity 1 + 16) ∧
      ∀ k v, ((m.put k v).size ≤ max capacity 1 + 1 ∧
          (m.put k v).order.length ≤ 2 * max capacity 1 + 17) ∧
        (max capacity 1 < (m.put k v).size → m.insert k v = (m.put k v).evict ∧
          ∃ stale s rest x, m.order = stale ++ s :: rest ∧
            (∀ t ∈ stale, isCurrent (m.put k v).entries t = false) ∧
            m.entries[s.key]? = some ⟨s.stamp, x⟩ ∧ s.key ≠ k ∧
            (m.put k v).evict = (some (s.key, x), { m.put k v with
              entries := (m.put k v).entries.erase s.key,
              order := rest ++ [⟨m.stamp + 1, k⟩] })) := by
  obtain ⟨hcapacity, hvalid⟩ := (valid_empty (κ := κ) (α := α) capacity).after ops
  have hstamp := (empty capacity : Bounded κ α).stamp_after ops
  rw [hm] at hcapacity hvalid hstamp
  rw [capacity_empty] at hcapacity
  have hsize : m.size ≤ max capacity 1 := hcapacity ▸ hvalid.size_le
  have hlength : m.order.length ≤ 2 * m.size + 16 := by
    rw [Nat.mul_comm]
    exact hvalid.length_le
  refine ⟨hvalid.sorted, fun k e he => hvalid.filter_stamp_eq he, hlength,
    ⟨hstamp.trans (Nat.zero_add _), hvalid.stamp_le⟩, ⟨hsize, by omega⟩, fun k v => ⟨⟨?_, ?_⟩, ?_⟩⟩
  · -- only a new key adds an entry
    rw [size_put]
    split <;> omega
  · rw [put, List.length_append, List.length_singleton]
    omega
  · intro hfull
    rw [← hcapacity] at hfull
    exact ⟨hvalid.insert_eq_evict hfull, hvalid.evict_put hfull⟩

/-- A map for one entry, whose slot stands behind that of a key that was removed and that of an
earlier insertion of its own key. -/
def churned : Bounded String Int where
  entries := (((∅ : Std.HashMap String (Stamped Int)).insert "a" ⟨1, 1⟩ |>.erase "a").insert
    "b" ⟨2, 2⟩).insert "b" ⟨3, 3⟩
  order := [⟨1, "a"⟩, ⟨2, "b"⟩, ⟨3, "b"⟩]
  capacity := 1
  stamp := 3

/-- Both stale slots are passed over when another key makes the map too large. -/
theorem evict_of_churned :
    (empty 0).after [.insert "a" 1, .remove "a", .insert "b" 2, .insert "b" 3] = churned ∧
      (churned.entries["b"]? = some ⟨3, 3⟩ ∧
        churned.order.filter (fun s => s.stamp = 3) = [⟨3, "b"⟩]) ∧
      churned.order.length ≤ 2 * churned.size + 16 ∧
      max 0 1 < (churned.put "c" 4).size ∧ churned.insert "c" 4 = (churned.put "c" 4).evict ∧
      (churned.put "c" 4).evict.1 = some ("b", 3) := by
  have hafter :
      (empty 0).after [.insert "a" 1, .remove "a", .insert "b" 2, .insert "b" 3] = churned := by
    simp [churned, after, perform, insert, remove, empty, sweep, slotLimit, size,
      Std.HashMap.size_insert, Std.HashMap.size_erase]
  have hentry : churned.entries["b"]? = some ⟨3, 3⟩ := by simp [churned]
  have hfull : max 0 1 < (churned.put "c" 4).size := by
    simp [churned, put, size, Std.HashMap.size_insert, Std.HashMap.size_erase]
  obtain ⟨-, hslot, hlength, -, -, hput⟩ := slots_of_after hafter
  obtain ⟨hinsert, stale, s, rest, x, hsplit, -, hs, -, hevict⟩ := (hput "c" 4).2 hfull
  refine ⟨hafter, ⟨hentry, hslot "b" _ hentry⟩, hlength, hfull, hinsert, ?_⟩
  have hmem : s ∈ churned.order := by
    rw [hsplit]
    exact List.mem_append_right _ List.mem_cons_self
  rw [hevict]
  simp only [churned, List.mem_cons, List.not_mem_nil, or_false] at hmem
  rcases hmem with rfl | rfl | rfl
  · simp [churned] at hs
  · simp [churned] at hs
  · rw [hentry, Option.some.injEq, Stamped.mk.injEq] at hs
    rw [← hs.2]

end Bounded

end FlowAudit
