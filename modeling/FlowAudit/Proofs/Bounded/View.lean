import Mathlib.Data.List.Nodup
import Mathlib.Data.List.Perm.Lattice
import FlowAudit.Bounded

/-!
# Bounded maps as lists

`Bounded.toList` is what a bounded map stands for: its entries as pairs, the one inserted longest
ago first. Stale slots do not show in it. Under the invariant `Bounded.Valid` of the representation

* the keys of the list are distinct (`Consistent.nodup_keys`), the list has as many pairs as the map
  has entries (`Consistent.length_toList`), and looking a key up is looking for its pair
  (`Consistent.mem_toList_iff`);
* evicting drops the head of the list (`Consistent.evict`), whose slot is the first that is not
  stale (`IsOldest.evict_eq`);
* an insertion moves the key to the end of the list and, if that makes the list too long, drops its
  head, which is the entry that is answered (`Valid.insert`);
* removing and changing a value do what they do to a list (`Valid.remove`, `Valid.modify`).

The invariant holds of an empty map and every operation keeps it. It also bounds the number of
slots, stale ones included, by a multiple of the number of entries.
-/

namespace FlowAudit.Bounded

variable {κ α : Type} [BEq κ] [Hashable κ]

/-! ### The view -/

/-- The pair that a slot stands for: none if the slot is stale. -/
def pair? (entries : Std.HashMap κ (Stamped α)) (s : Slot κ) : Option (κ × α) :=
  (entries[s.key]?.filter fun e => e.stamp = s.stamp).map fun e => (s.key, e.value)

/-- The entries, the one inserted longest ago first. -/
def toList (m : Bounded κ α) : List (κ × α) :=
  m.order.filterMap (pair? m.entries)

/-- Slots and entries fit together. -/
structure Consistent (m : Bounded κ α) : Prop where
  /-- Slots stand in the order of their stamps, all of which differ. -/
  sorted : m.order.Pairwise fun s t => s.stamp < t.stamp
  /-- No slot is stamped beyond the last insertion. -/
  stamp_le : ∀ s ∈ m.order, s.stamp ≤ m.stamp
  /-- Every entry has the slot of its insertion. -/
  slot_mem : ∀ k e, m.entries[k]? = some e → ⟨e.stamp, k⟩ ∈ m.order

/-- The representation invariant. -/
structure Valid (m : Bounded κ α) : Prop extends Consistent m where
  one_le_capacity : 1 ≤ m.capacity
  size_le : m.size ≤ m.capacity
  length_le : m.order.length ≤ slotLimit m.size

theorem valid_empty (capacity : Nat) : (empty capacity : Bounded κ α).Valid where
  sorted := List.Pairwise.nil
  stamp_le := by simp [empty]
  slot_mem := by simp [empty]
  one_le_capacity := Nat.le_max_right _ _
  size_le := by simp [empty, size]
  length_le := by simp [empty]

@[simp] theorem toList_empty (capacity : Nat) : (empty capacity : Bounded κ α).toList = [] := rfl

@[simp] theorem capacity_empty (capacity : Nat) :
    (empty capacity : Bounded κ α).capacity = max capacity 1 := rfl

@[simp] theorem get?_empty [EquivBEq κ] [LawfulHashable κ] (capacity : Nat) (k : κ) :
    (empty capacity : Bounded κ α).get? k = none := by
  simp [empty, get?]

/-! ### Slots and their pairs -/

section Slots

variable {entries : Std.HashMap κ (Stamped α)} {s : Slot κ} {p : κ × α}

theorem pair?_eq_some_iff :
    pair? entries s = some p ↔ entries[s.key]? = some ⟨s.stamp, p.2⟩ ∧ s.key = p.1 := by
  obtain ⟨k, v⟩ := p
  unfold pair?
  cases h : entries[s.key]? with
  | none => simp
  | some e =>
    obtain ⟨t, x⟩ := e
    by_cases ht : t = s.stamp <;> simp [ht, and_comm]

theorem pair?_eq_none_of_not_isCurrent (h : isCurrent entries s = false) :
    pair? entries s = none := by
  unfold isCurrent at h
  unfold pair?
  cases he : entries[s.key]? with
  | none => rfl
  | some e => simp_all

/-- A slot that is not stale stands for the entry of its key. -/
theorem exists_of_isCurrent (h : isCurrent entries s = true) :
    ∃ v, entries[s.key]? = some ⟨s.stamp, v⟩ := by
  unfold isCurrent at h
  cases he : entries[s.key]? with
  | none => simp [he] at h
  | some e =>
    simp only [he, decide_eq_true_eq] at h
    exact ⟨e.value, by rw [← h]⟩

/-- Without an entry its pair is gone. -/
theorem pair?_erase [LawfulBEq κ] (k : κ) :
    pair? (entries.erase k) s = (pair? entries s).filter fun p => p.1 != k := by
  unfold pair?
  rw [Std.HashMap.getElem?_erase]
  by_cases hk : k = s.key
  · cases entries[s.key]? with
    | none => simp [hk]
    | some e => by_cases he : e.stamp = s.stamp <;> simp [hk, he, Option.filter]
  · cases entries[s.key]? with
    | none => simp [hk]
    | some e => by_cases he : e.stamp = s.stamp <;> simp [hk, he, Option.filter, Ne.symm hk]

/-- A new stamp makes the older slots of its key stale. -/
theorem pair?_insert [LawfulBEq κ] {t : Nat} (hs : s.stamp ≠ t) (k : κ) (v : α) :
    pair? (entries.insert k ⟨t, v⟩) s = (pair? entries s).filter fun p => p.1 != k := by
  rw [← pair?_erase]
  unfold pair?
  rw [Std.HashMap.getElem?_insert, Std.HashMap.getElem?_erase]
  split
  · simp [Option.filter, Ne.symm hs]
  · rfl

/-- Leaving stale slots out changes no pair. -/
theorem filterMap_pair?_filter (order : List (Slot κ)) :
    (order.filter (isCurrent entries)).filterMap (pair? entries) =
      order.filterMap (pair? entries) := by
  induction order with
  | nil => rfl
  | cons s rest ih =>
    by_cases hs : isCurrent entries s = true
    · rw [List.filter_cons_of_pos hs, List.filterMap_cons, List.filterMap_cons, ih]
    · have hs' : isCurrent entries s = false := by simpa using hs
      rw [List.filter_cons_of_neg hs, ih,
        List.filterMap_cons_none (pair?_eq_none_of_not_isCurrent hs')]

/-- Stale slots stand for nothing. -/
theorem filterMap_pair?_of_stale {stale : List (Slot κ)}
    (hstale : ∀ t ∈ stale, isCurrent entries t = false) : stale.filterMap (pair? entries) = [] :=
  List.filterMap_eq_nil_iff.mpr fun t ht => pair?_eq_none_of_not_isCurrent (hstale t ht)

theorem oldest?_of_stale {stale : List (Slot κ)}
    (hstale : ∀ t ∈ stale, isCurrent entries t = false) : oldest? entries stale = none := by
  induction stale with
  | nil => rfl
  | cons t stale ih =>
    rw [List.forall_mem_cons] at hstale
    rw [oldest?, if_neg (by simp [hstale.1]), ih hstale.2]

/-- Stale slots in front are passed over. -/
theorem oldest?_append_cons {stale rest : List (Slot κ)}
    (hstale : ∀ t ∈ stale, isCurrent entries t = false) (hs : isCurrent entries s = true) :
    oldest? entries (stale ++ s :: rest) = some (s, rest) := by
  induction stale with
  | nil => exact if_pos hs
  | cons t stale ih =>
    rw [List.forall_mem_cons] at hstale
    rw [List.cons_append, oldest?, if_neg (by simp [hstale.1]), ih hstale.2]

end Slots

/-! ### What the view shows -/

section View

variable {m : Bounded κ α}

theorem Consistent.mem_toList_iff (h : m.Consistent) {k : κ} {v : α} :
    (k, v) ∈ m.toList ↔ m.get? k = some v := by
  unfold toList get?
  rw [List.mem_filterMap, Option.map_eq_some_iff]
  constructor
  · rintro ⟨s, -, hs⟩
    obtain ⟨he, rfl⟩ := pair?_eq_some_iff.mp hs
    exact ⟨_, he, rfl⟩
  · rintro ⟨e, he, rfl⟩
    exact ⟨_, h.slot_mem k e he, pair?_eq_some_iff.mpr ⟨he, rfl⟩⟩

theorem Consistent.nodup_keys (h : m.Consistent) : (m.toList.map Prod.fst).Nodup := by
  unfold toList List.Nodup
  rw [List.pairwise_map, List.pairwise_filterMap]
  refine h.sorted.imp ?_
  intro s t hlt p hp q hq hkey
  obtain ⟨hs, hsk⟩ := pair?_eq_some_iff.mp hp
  obtain ⟨ht, htk⟩ := pair?_eq_some_iff.mp hq
  -- two slots of one key that are not stale carry the stamp of its one entry
  rw [hsk, hkey, ← htk, ht, Option.some.injEq, Stamped.mk.injEq] at hs
  exact absurd hs.1 (Nat.ne_of_gt hlt)

theorem Consistent.mem_keys_iff (h : m.Consistent) {k : κ} :
    k ∈ m.toList.map Prod.fst ↔ (m.get? k).isSome := by
  rw [List.mem_map, Option.isSome_iff_exists]
  constructor
  · rintro ⟨⟨k', v⟩, hmem, rfl⟩
    exact ⟨v, h.mem_toList_iff.mp hmem⟩
  · rintro ⟨v, hv⟩
    exact ⟨(k, v), h.mem_toList_iff.mpr hv, rfl⟩

theorem Consistent.length_toList [LawfulBEq κ] (h : m.Consistent) : m.toList.length = m.size := by
  have hperm : (m.toList.map Prod.fst).Perm m.entries.keys := by
    refine (List.perm_ext_iff_of_nodup h.nodup_keys Std.HashMap.nodup_keys).mpr ?_
    intro k
    rw [h.mem_keys_iff, Std.HashMap.mem_keys, Std.HashMap.mem_iff_isSome_getElem?, get?,
      Option.isSome_map]
  rw [← List.length_map (f := Prod.fst), hperm.length_eq, Std.HashMap.length_keys, size]

/-- A map has no more entries than there are keys it may have. -/
theorem Consistent.size_le_length [LawfulBEq κ] (h : m.Consistent) {keys : List κ}
    (hkeys : ∀ k, (m.get? k).isSome → k ∈ keys) : m.size ≤ keys.length := by
  rw [← h.length_toList, ← List.length_map (f := Prod.fst)]
  refine h.nodup_keys.length_le_of_subset fun k hk => ?_
  exact hkeys k (h.mem_keys_iff.mp hk)

/-- A map has at least as many entries as there are keys it is known to have. -/
theorem Consistent.length_le_size [LawfulBEq κ] (h : m.Consistent) {keys : List κ}
    (hnodup : keys.Nodup) (hkeys : ∀ k ∈ keys, (m.get? k).isSome) : keys.length ≤ m.size := by
  rw [← h.length_toList, ← List.length_map (f := Prod.fst)]
  refine hnodup.length_le_of_subset fun k hk => ?_
  exact h.mem_keys_iff.mpr (hkeys k hk)

/-- Two maps with the same pairs answer every look-up alike. -/
theorem Consistent.get?_congr {m' : Bounded κ α} (h : m.Consistent) (h' : m'.Consistent) {k : κ}
    (hmem : ∀ v, (k, v) ∈ m'.toList ↔ (k, v) ∈ m.toList) : m'.get? k = m.get? k := by
  apply Option.ext
  intro v
  rw [← h.mem_toList_iff, ← h'.mem_toList_iff, hmem]

end View

/-! ### Sweeping and evicting -/

section Operations

variable {m : Bounded κ α}

@[simp] theorem entries_sweep (m : Bounded κ α) : m.sweep.entries = m.entries := by
  unfold sweep
  split <;> rfl

@[simp] theorem capacity_sweep (m : Bounded κ α) : m.sweep.capacity = m.capacity := by
  unfold sweep
  split <;> rfl

@[simp] theorem toList_sweep (m : Bounded κ α) : m.sweep.toList = m.toList := by
  unfold sweep
  split
  · exact filterMap_pair?_filter m.order
  · rfl

theorem Consistent.sweep (h : m.Consistent) : m.sweep.Consistent := by
  unfold Bounded.sweep
  split
  · refine ⟨h.sorted.filter _, fun s hs => h.stamp_le s (List.mem_filter.mp hs).1, ?_⟩
    intro k e he
    exact List.mem_filter.mpr ⟨h.slot_mem k e he, by simp [isCurrent, he]⟩
  · exact h

/-- After sweeping there are not more slots than the limit: none is stale, or there were not too
many. -/
theorem Consistent.length_sweep_le [LawfulBEq κ] (h : m.Consistent) :
    m.sweep.order.length ≤ slotLimit m.size := by
  unfold Bounded.sweep
  split
  · have hcurrent : (m.order.filter (isCurrent m.entries)).length = m.toList.length := by
      unfold toList
      rw [← filterMap_pair?_filter, List.length_filterMap_eq_countP, List.countP_eq_length.mpr]
      intro s hs
      obtain ⟨v, hv⟩ := exists_of_isCurrent (List.mem_filter.mp hs).2
      have hpair : pair? m.entries s = some (s.key, v) := pair?_eq_some_iff.mpr ⟨hv, rfl⟩
      rw [hpair, Option.isSome_some]
    simp only [hcurrent, h.length_toList, slotLimit]
    omega
  · rename_i hle
    exact Nat.le_of_not_lt hle

theorem evict_eq (m : Bounded κ α) :
    m.evict = match oldest? m.entries m.order with
      | none => (none, { m with order := [] })
      | some (s, rest) => ((m.get? s.key).map fun v => (s.key, v),
          { m with entries := m.entries.erase s.key, order := rest }) := rfl

@[simp] theorem capacity_evict (m : Bounded κ α) : m.evict.2.capacity = m.capacity := by
  rw [evict_eq]
  split <;> rfl

/-- The first slot that is not stale, with the slots in front of it and behind it and the value of
its entry. -/
structure IsOldest (m : Bounded κ α) (stale : List (Slot κ)) (s : Slot κ) (rest : List (Slot κ))
    (v : α) : Prop where
  order_eq : m.order = stale ++ s :: rest
  stale_of_mem : ∀ t ∈ stale, isCurrent m.entries t = false
  entry_eq : m.entries[s.key]? = some ⟨s.stamp, v⟩

/-- All slots are stale, or there is a first one that is not. -/
theorem stale_or_exists_isOldest (m : Bounded κ α) :
    (∀ t ∈ m.order, isCurrent m.entries t = false) ∨
      ∃ stale s rest v, m.IsOldest stale s rest v := by
  cases hfind : m.order.find? (isCurrent m.entries) with
  | none => exact .inl (by simpa using hfind)
  | some s =>
    obtain ⟨hs, stale, rest, hsplit, hstale⟩ := List.find?_eq_some_iff_append.mp hfind
    obtain ⟨v, hv⟩ := exists_of_isCurrent hs
    exact .inr ⟨stale, s, rest, v, hsplit, by simpa using hstale, hv⟩

theorem exists_isOldest (h : m.toList ≠ []) : ∃ stale s rest v, m.IsOldest stale s rest v :=
  m.stale_or_exists_isOldest.resolve_left fun hstale => h (filterMap_pair?_of_stale hstale)

namespace IsOldest

variable {stale rest : List (Slot κ)} {s : Slot κ} {v : α}

/-- Evicting drops the entry of the first slot that is not stale and answers it; the slots as far as
that one are gone. -/
theorem evict_eq (h : m.IsOldest stale s rest v) :
    m.evict = (some (s.key, v), { m with entries := m.entries.erase s.key, order := rest }) := by
  have hs : isCurrent m.entries s = true := by simp [isCurrent, h.entry_eq]
  rw [Bounded.evict_eq, h.order_eq, oldest?_append_cons h.stale_of_mem hs]
  simp [get?, h.entry_eq]

theorem toList_eq (h : m.IsOldest stale s rest v) :
    m.toList = (s.key, v) :: rest.filterMap (pair? m.entries) := by
  have hpair : pair? m.entries s = some (s.key, v) := pair?_eq_some_iff.mpr ⟨h.entry_eq, rfl⟩
  rw [toList, h.order_eq, List.filterMap_append, filterMap_pair?_of_stale h.stale_of_mem,
    List.nil_append, List.filterMap_cons_some hpair]

variable [LawfulBEq κ]

theorem toList_evict (h : m.IsOldest stale s rest v) (hm : m.Consistent) :
    m.evict.2.toList = m.toList.tail := by
  have hkeys := hm.nodup_keys
  rw [h.toList_eq, List.map_cons, List.nodup_cons] at hkeys
  rw [h.evict_eq, h.toList_eq, List.tail_cons, toList]
  simp only [pair?_erase]
  rw [← List.filter_filterMap, List.filter_eq_self]
  intro p hp
  -- no slot behind stands for this key
  have hne : p.1 ≠ s.key := fun hk => hkeys.1 (List.mem_map.mpr ⟨p, hp, hk⟩)
  simpa using hne

theorem consistent_evict (h : m.IsOldest stale s rest v) (hm : m.Consistent) :
    m.evict.2.Consistent := by
  have hsorted := hm.sorted
  rw [h.order_eq, List.pairwise_append, List.pairwise_cons] at hsorted
  obtain ⟨-, ⟨-, hrest⟩, -⟩ := hsorted
  rw [h.evict_eq]
  refine ⟨hrest, fun t ht => hm.stamp_le t (by rw [h.order_eq]; simp [ht]), fun k e he => ?_⟩
  rw [Std.HashMap.getElem?_erase] at he
  split at he
  · cases he
  · rename_i hk
    have hmem := hm.slot_mem k e he
    rw [h.order_eq, List.mem_append, List.mem_cons] at hmem
    rcases hmem with hmem | heq | hmem
    · -- the slot of an entry is not stale, so it does not stand in front
      exact absurd (h.stale_of_mem _ hmem) (by simp [isCurrent, he])
    · exact absurd (congrArg Slot.key heq).symm (by simpa using hk)
    · exact hmem

end IsOldest

/-- Evicting drops the head of the list and answers it. -/
theorem Consistent.evict [LawfulBEq κ] (h : m.Consistent) :
    m.evict.1 = m.toList.head? ∧ m.evict.2.toList = m.toList.tail ∧ m.evict.2.Consistent := by
  rcases m.stale_or_exists_isOldest with hstale | ⟨stale, s, rest, v, holdest⟩
  · have hnil : m.toList = [] := filterMap_pair?_of_stale hstale
    rw [evict_eq, oldest?_of_stale hstale, hnil]
    refine ⟨rfl, rfl, List.Pairwise.nil, by simp, ?_⟩
    -- an entry would have a slot that is not stale
    intro k e he
    have hmem : (k, e.value) ∈ m.toList := h.mem_toList_iff.mpr (by simp [get?, he])
    simp [hnil] at hmem
  · refine ⟨?_, holdest.toList_evict h, holdest.consistent_evict h⟩
    rw [holdest.evict_eq, holdest.toList_eq, List.head?_cons]

/-- Evicting from a map with entries uses up a slot. -/
theorem length_evict_lt (h : m.toList ≠ []) : m.evict.2.order.length < m.order.length := by
  obtain ⟨stale, s, rest, v, holdest⟩ := exists_isOldest h
  rw [holdest.evict_eq, holdest.order_eq, List.length_append, List.length_cons]
  exact Nat.lt_of_lt_of_le (Nat.lt_succ_self _) (Nat.le_add_left _ _)

end Operations

/-! ### Inserting -/

section Insert

variable {m : Bounded κ α}

/-- The map right after an insertion, which may hold an entry too many. -/
def put (m : Bounded κ α) (k : κ) (v : α) : Bounded κ α :=
  { m with
    entries := m.entries.insert k ⟨m.stamp + 1, v⟩
    order := m.order ++ [⟨m.stamp + 1, k⟩]
    stamp := m.stamp + 1 }

theorem insert_eq (m : Bounded κ α) (k : κ) (v : α) :
    m.insert k v =
      if m.entries.contains k then (none, (m.put k v).sweep)
      else if (m.put k v).size > m.capacity then (m.put k v).evict
      else (none, m.put k v) := rfl

variable [LawfulBEq κ]

theorem size_put (m : Bounded κ α) (k : κ) (v : α) :
    (m.put k v).size = if m.entries.contains k then m.size else m.size + 1 := by
  simp only [put, size, Std.HashMap.size_insert, Std.HashMap.contains_iff_mem]

theorem Consistent.put (h : m.Consistent) (k : κ) (v : α) : (m.put k v).Consistent where
  sorted := by
    refine List.pairwise_append.mpr ⟨h.sorted, List.pairwise_singleton _ _, ?_⟩
    intro s hs t ht
    obtain rfl := List.mem_singleton.mp ht
    exact Nat.lt_succ_of_le (h.stamp_le s hs)
  stamp_le s hs := by
    rcases List.mem_append.mp hs with hs | hs
    · exact Nat.le_succ_of_le (h.stamp_le s hs)
    · obtain rfl := List.mem_singleton.mp hs
      exact Nat.le_refl _
  slot_mem k' e he := by
    simp only [Bounded.put, Std.HashMap.getElem?_insert] at he
    split at he
    · rename_i hk
      obtain rfl := Option.some.inj he
      exact List.mem_append_right _ (by simp [eq_of_beq hk])
    · exact List.mem_append_left _ (h.slot_mem k' e he)

/-- An inserted key is the last of the list, whether or not it was in it. -/
theorem Consistent.toList_put (h : m.Consistent) (k : κ) (v : α) :
    (m.put k v).toList = m.toList.filter (fun p => p.1 != k) ++ [(k, v)] := by
  have hlast : pair? (m.put k v).entries ⟨m.stamp + 1, k⟩ = some (k, v) :=
    pair?_eq_some_iff.mpr ⟨by simp [Bounded.put], rfl⟩
  calc (m.put k v).toList
      = m.order.filterMap (pair? (m.put k v).entries) ++ [(k, v)] := by
        rw [toList, show (m.put k v).order = m.order ++ [⟨m.stamp + 1, k⟩] from rfl,
          List.filterMap_append, List.filterMap_cons_some hlast, List.filterMap_nil]
    _ = m.order.filterMap (fun s => (pair? m.entries s).filter fun p => p.1 != k) ++ [(k, v)] := by
        congr 1
        refine List.filterMap_congr fun s hs => pair?_insert ?_ k v
        exact Nat.ne_of_lt (Nat.lt_succ_of_le (h.stamp_le s hs))
    _ = m.toList.filter (fun p => p.1 != k) ++ [(k, v)] := by
        rw [toList, List.filter_filterMap]

/-- A new key is added to the end of the list. -/
theorem Consistent.toList_put_of_new (h : m.Consistent) {k : κ} (v : α) (hnew : m.get? k = none) :
    (m.put k v).toList = m.toList ++ [(k, v)] := by
  rw [h.toList_put, List.filter_eq_self.mpr]
  intro p hp
  have hsome : (m.get? p.1).isSome := h.mem_keys_iff.mp (List.mem_map_of_mem hp)
  have hne : p.1 ≠ k := by
    rintro rfl
    simp [hnew] at hsome
  simpa using hne

/-- What an insertion does: the key goes to the end of the list, and a list that is too long then
loses its head, which is answered. -/
theorem Valid.insert (h : m.Valid) (k : κ) (v : α) :
    (m.insert k v).1 = (if m.capacity < (m.put k v).toList.length then
        (m.put k v).toList.head? else none) ∧
      (m.insert k v).2.toList = (if m.capacity < (m.put k v).toList.length then
        (m.put k v).toList.tail else (m.put k v).toList) ∧
      (m.insert k v).2.capacity = m.capacity ∧ (m.insert k v).2.Valid := by
  have hput := h.toConsistent.put k v
  have hsize := size_put m k v
  have hslots : (m.put k v).order.length = m.order.length + 1 := by simp [Bounded.put]
  have hle := h.length_le
  rw [hput.length_toList, insert_eq]
  by_cases hk : m.entries.contains k = true
  · rw [if_pos hk] at hsize
    have hsz : ¬ m.capacity < (m.put k v).size := by rw [hsize]; exact Nat.not_lt.mpr h.size_le
    rw [if_pos hk, if_neg hsz, if_neg hsz]
    have hcap : (m.put k v).sweep.capacity = m.capacity := capacity_sweep _
    have hsweep : (m.put k v).sweep.size = (m.put k v).size := by simp [size]
    refine ⟨rfl, toList_sweep _, hcap, hput.sweep, ?_, ?_, ?_⟩
    · rw [hcap]; exact h.one_le_capacity
    · rw [hsweep, hcap]; exact Nat.le_of_not_lt hsz
    · rw [hsweep]; exact hput.length_sweep_le
  · rw [if_neg hk] at hsize
    rw [if_neg hk]
    by_cases hfull : m.capacity < (m.put k v).size
    · obtain ⟨hfst, htail, hcons⟩ := hput.evict
      rw [if_pos hfull, if_pos hfull, if_pos hfull]
      have hcap : (m.put k v).evict.2.capacity = m.capacity := capacity_evict _
      have hsz : (m.put k v).evict.2.size = m.size := by
        rw [← hcons.length_toList, htail, List.length_tail, hput.length_toList, hsize,
          Nat.add_sub_cancel]
      refine ⟨hfst, htail, hcap, hcons, ?_, ?_, ?_⟩
      · rw [hcap]; exact h.one_le_capacity
      · rw [hsz, hcap]; exact h.size_le
      · have hlt := length_evict_lt (m := m.put k v) (by rw [h.toList_put]; simp)
        rw [hsz]
        omega
    · rw [if_neg hfull, if_neg hfull, if_neg hfull]
      refine ⟨rfl, rfl, rfl, hput, h.one_le_capacity, Nat.le_of_not_lt hfull, ?_⟩
      rw [hslots, hsize]
      simp only [slotLimit] at hle ⊢
      omega

/-- An insertion is found under its key. -/
theorem Valid.get?_insert_self (h : m.Valid) (k : κ) (v : α) :
    (m.insert k v).2.get? k = some v := by
  obtain ⟨-, hlist, -, hvalid⟩ := h.insert k v
  rw [← hvalid.mem_toList_iff, hlist]
  split
  · rename_i hfull
    -- the capacity is not zero, so the pair at the end is not the head that was dropped
    have hone := h.one_le_capacity
    rw [h.toList_put] at hfull ⊢
    cases hfront : m.toList.filter fun p => p.1 != k with
    | nil => simp [hfront] at hfull; omega
    | cons p rest => simp
  · rw [h.toList_put]; simp

/-- The entry that an insertion drops is another key's, and is gone. -/
theorem Valid.get?_of_fst_insert (h : m.Valid) {k k' : κ} {v v' : α}
    (hev : (m.insert k v).1 = some (k', v')) :
    k' ≠ k ∧ m.get? k' = some v' ∧ (m.insert k v).2.get? k' = none := by
  obtain ⟨hfst, hlist, -, hvalid⟩ := h.insert k v
  have hput := (h.toConsistent.put k v).nodup_keys
  rw [hfst] at hev
  split at hev
  · rename_i hfull
    rw [if_pos hfull] at hlist
    have hone := h.one_le_capacity
    rw [h.toList_put] at hfull hev hlist hput
    cases hfront : m.toList.filter fun p => p.1 != k with
    | nil => simp [hfront] at hfull; omega
    | cons p rest =>
      rw [hfront, List.cons_append] at hev hlist hput
      obtain rfl := Option.some.inj hev
      have hmem : (k', v') ∈ m.toList.filter fun p => p.1 != k := by rw [hfront]; simp
      rw [List.mem_filter] at hmem
      refine ⟨by simpa using hmem.2, h.mem_toList_iff.mp hmem.1, ?_⟩
      rw [Option.eq_none_iff_forall_ne_some]
      intro x hx
      rw [← hvalid.mem_toList_iff, hlist, List.tail_cons] at hx
      rw [List.map_cons, List.nodup_cons] at hput
      exact hput.1 (List.mem_map.mpr ⟨_, hx, rfl⟩)
  · cases hev

/-- Every other entry stays as it is. -/
theorem Valid.get?_insert_of_ne (h : m.Valid) {k k' : κ} {v : α} (hne : k' ≠ k)
    (hkeep : ∀ v', (m.insert k v).1 ≠ some (k', v')) :
    (m.insert k v).2.get? k' = m.get? k' := by
  obtain ⟨hfst, hlist, -, hvalid⟩ := h.insert k v
  refine h.get?_congr hvalid.toConsistent fun x => ?_
  have hput : (k', x) ∈ (m.put k v).toList ↔ (k', x) ∈ m.toList := by
    rw [h.toList_put]
    simp [hne]
  rw [← hput, hlist]
  split
  · rename_i hfull
    rw [if_pos hfull] at hfst
    cases hl : (m.put k v).toList with
    | nil => simp
    | cons p rest =>
      rw [hl, List.head?_cons] at hfst
      have hhead : (k', x) ≠ p := fun he => hkeep x (by rw [hfst, he])
      simp [hhead]
  · rfl

/-- What is found after an insertion was inserted just then, or was there before. -/
theorem Valid.get?_of_insert (h : m.Valid) {k k' : κ} {v v' : α}
    (hget : (m.insert k v).2.get? k' = some v') : k' = k ∧ v' = v ∨ m.get? k' = some v' := by
  by_cases hk : k' = k
  · subst hk
    rw [h.get?_insert_self] at hget
    exact .inl ⟨rfl, (Option.some.inj hget).symm⟩
  · refine .inr ?_
    rw [← hget, h.get?_insert_of_ne hk]
    intro dropped hdropped
    rw [(h.get?_of_fst_insert hdropped).2.2] at hget
    cases hget

/-- Nothing is dropped for a key that is there already, or while there is room. -/
theorem Valid.fst_insert_eq_none (h : m.Valid) {k : κ} (v : α)
    (hroom : (m.get? k).isSome ∨ m.size < m.capacity) : (m.insert k v).1 = none := by
  rw [(h.insert k v).1, (h.toConsistent.put k v).length_toList, if_neg]
  rw [size_put]
  have hle := h.size_le
  split
  · exact Nat.not_lt.mpr hle
  · rename_i hk
    rcases hroom with hsome | hlt
    · rw [Std.HashMap.contains_eq_isSome_getElem?] at hk
      exact absurd (by simpa [get?] using hsome) hk
    · exact Nat.not_lt.mpr hlt

/-- A new key in a full map takes the place of the oldest entry. -/
theorem Valid.fst_insert_of_full (h : m.Valid) {k : κ} (v : α) (hnew : m.get? k = none)
    (hfull : m.size = m.capacity) : (m.insert k v).1 = m.toList.head? := by
  have hlength : m.toList.length = m.capacity := h.length_toList.trans hfull
  have hne : m.toList ≠ [] := by
    rw [← List.length_pos_iff, hlength]
    exact h.one_le_capacity
  rw [(h.insert k v).1, h.toList_put_of_new v hnew, List.head?_append_of_ne_nil _ hne,
    if_pos (by simp [hlength])]

end Insert

/-! ### Changing and removing -/

section Change

variable [LawfulBEq κ] {m : Bounded κ α}

theorem get?_modify (m : Bounded κ α) (k k' : κ) (f : α → α) :
    (m.modify k f).get? k' = if k' == k then (m.get? k').map f else m.get? k' := by
  unfold modify get?
  cases he : m.entries[k]? with
  | none =>
    by_cases hk : k' = k
    · simp [hk, he]
    · simp [hk]
  | some e =>
    by_cases hk : k' = k
    · simp [hk, he]
    · have hk' : k ≠ k' := fun h => hk h.symm
      simp [hk, hk', Std.HashMap.getElem?_insert]

/-- A changed value changes the pair of the slot that is current. -/
theorem pair?_modify {entries : Std.HashMap κ (Stamped α)} {k : κ} {e : Stamped α}
    (he : entries[k]? = some e) (f : α → α) (s : Slot κ) :
    pair? (entries.insert k { e with value := f e.value }) s =
      (pair? entries s).map fun p => if p.1 == k then (p.1, f p.2) else p := by
  unfold pair?
  by_cases hk : s.key = k
  · by_cases hs : e.stamp = s.stamp <;> simp [hk, he, hs, Option.filter]
  · have hk' : k ≠ s.key := fun h => hk h.symm
    have hget : (entries.insert k { e with value := f e.value })[s.key]? = entries[s.key]? := by
      simp [Std.HashMap.getElem?_insert, hk']
    rw [hget]
    cases entries[s.key]? with
    | none => rfl
    | some e' => by_cases hs : e'.stamp = s.stamp <;> simp [hk, hs, Option.filter]

/-- Changing a value changes it in its place in the list. -/
theorem Valid.modify (h : m.Valid) (k : κ) (f : α → α) :
    (m.modify k f).toList = m.toList.map (fun p => if p.1 == k then (p.1, f p.2) else p) ∧
      (m.modify k f).capacity = m.capacity ∧ (m.modify k f).Valid := by
  unfold Bounded.modify
  cases he : m.entries[k]? with
  | none =>
    refine ⟨?_, rfl, h⟩
    conv_lhs => rw [← List.map_id m.toList]
    refine List.map_congr_left fun p hp => ?_
    have hne : p.1 ≠ k := by
      rintro rfl
      have hget := h.mem_toList_iff.mp hp
      simp [get?, he] at hget
    simp [hne]
  | some e =>
    have hsize : (m.entries.insert k { e with value := f e.value }).size = m.entries.size := by
      rw [Std.HashMap.size_insert, if_pos]
      rw [Std.HashMap.mem_iff_isSome_getElem?, he, Option.isSome_some]
    refine ⟨?_, rfl, ⟨h.sorted, h.stamp_le, ?_⟩, h.one_le_capacity, ?_, ?_⟩
    · simp only [toList]
      rw [List.map_filterMap]
      exact List.filterMap_congr fun s _ => pair?_modify he f s
    · intro k' e' he'
      rw [Std.HashMap.getElem?_insert] at he'
      split at he'
      · rename_i hk
        obtain rfl := Option.some.inj he'
        rw [← eq_of_beq hk]
        exact h.slot_mem k e he
      · exact h.slot_mem k' e' he'
    · rw [size, hsize]; exact h.size_le
    · rw [size, hsize]; exact h.length_le

theorem get?_remove (m : Bounded κ α) (k k' : κ) :
    (m.remove k).2.get? k' = if k' == k then none else m.get? k' := by
  unfold remove get?
  cases he : m.entries[k]? with
  | none =>
    by_cases hk : k' = k
    · simp [hk, he]
    · simp [hk]
  | some e =>
    by_cases hk : k' = k
    · simp [hk]
    · have hk' : k ≠ k' := fun h => hk h.symm
      simp [hk, hk', Std.HashMap.getElem?_erase]

omit [LawfulBEq κ] in
theorem fst_remove (m : Bounded κ α) (k : κ) : (m.remove k).1 = m.get? k := by
  unfold remove get?
  cases m.entries[k]? <;> rfl

/-- Removing a key removes its pair from the list. -/
theorem Valid.remove (h : m.Valid) (k : κ) :
    (m.remove k).2.toList = m.toList.filter (fun p => p.1 != k) ∧
      (m.remove k).2.capacity = m.capacity ∧ (m.remove k).2.Valid := by
  unfold Bounded.remove
  cases he : m.entries[k]? with
  | none =>
    refine ⟨(List.filter_eq_self.mpr fun p hp => ?_).symm, rfl, h⟩
    have hne : p.1 ≠ k := by
      rintro rfl
      have hget := h.mem_toList_iff.mp hp
      simp [get?, he] at hget
    simpa using hne
  | some e =>
    have hcons : ({ m with entries := m.entries.erase k } : Bounded κ α).Consistent := by
      refine ⟨h.sorted, h.stamp_le, fun k' e' he' => ?_⟩
      rw [Std.HashMap.getElem?_erase] at he'
      split at he'
      · cases he'
      · exact h.slot_mem k' e' he'
    have hsize : (m.entries.erase k).size ≤ m.entries.size := by
      rw [Std.HashMap.size_erase]
      split
      · exact Nat.sub_le _ _
      · exact Nat.le_refl _
    refine ⟨?_, capacity_sweep _, hcons.sweep, ?_, ?_, ?_⟩
    · rw [toList_sweep, toList, toList, List.filter_filterMap]
      exact List.filterMap_congr fun s _ => pair?_erase k
    · rw [capacity_sweep]; exact h.one_le_capacity
    · rw [capacity_sweep, size, entries_sweep]; exact Nat.le_trans hsize h.size_le
    · simpa [size] using hcons.length_sweep_le

end Change

end FlowAudit.Bounded
