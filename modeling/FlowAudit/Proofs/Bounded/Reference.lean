import FlowAudit.Proofs.Bounded.View

/-!
# Bounded maps and rosters

A `Roster` is a list of pairs with distinct keys in the order of their last insertion: inserting a
key that is on it moves the key to the end, inserting another one into a full roster drops the head,
and nothing else moves a pair. It has no slots and no stamps.

A bounded map shows nothing that its roster does not show. Every operation answers the same on both
and leaves a map and a roster with the same pairs (`Represents.perform`), so that a sequence of
operations cannot tell them apart (`transcript_eq_transcript`).
-/

namespace FlowAudit

/-! ### Operations -/

/-- An operation on a map. -/
inductive MapOperation (κ α : Type) where
  | insert (k : κ) (v : α)
  | get (k : κ)
  /-- Changes the value of a key in its place. -/
  | modify (k : κ) (f : α → α)
  | remove (k : κ)

/-- What an operation answers. -/
inductive MapResult (κ α : Type) where
  /-- The entry that an insertion dropped. -/
  | evicted (entry : Option (κ × α))
  /-- The value that a key had. -/
  | found (value : Option α)
  deriving DecidableEq, Repr

/-- What is seen of a map when an operation is done. -/
structure MapView (κ α : Type) where
  result : MapResult κ α
  size : Nat
  isEmpty : Bool
  deriving DecidableEq, Repr

/-! ### Rosters -/

/-- Pairs with distinct keys, the one inserted longest ago first. -/
structure Roster (κ α : Type) where
  pairs : List (κ × α)
  capacity : Nat
  nodup_keys : (pairs.map Prod.fst).Nodup
  one_le_capacity : 1 ≤ capacity
  length_le : pairs.length ≤ capacity

namespace Roster

variable {κ α : Type} [BEq κ] [LawfulBEq κ]

omit [BEq κ] [LawfulBEq κ] in
@[ext] theorem ext {r r' : Roster κ α} (hpairs : r.pairs = r'.pairs)
    (hcapacity : r.capacity = r'.capacity) : r = r' := by
  cases r
  cases r'
  simp_all

/-- The empty roster for at most `capacity` pairs, and for one if that is zero. -/
def empty (capacity : Nat) : Roster κ α where
  pairs := []
  capacity := max capacity 1
  nodup_keys := List.nodup_nil
  one_le_capacity := Nat.le_max_right _ _
  length_le := Nat.zero_le _

/-- Whether a key is on the roster. -/
def contains (r : Roster κ α) (k : κ) : Bool :=
  r.pairs.any fun p => p.1 == k

/-- The value of a key. -/
def get? (r : Roster κ α) (k : κ) : Option α :=
  r.pairs.lookup k

/-- Takes a key off the roster. -/
def erase (r : Roster κ α) (k : κ) : Roster κ α where
  pairs := r.pairs.filter fun p => p.1 != k
  capacity := r.capacity
  nodup_keys := r.nodup_keys.sublist (List.filter_sublist.map Prod.fst)
  one_le_capacity := r.one_le_capacity
  length_le := Nat.le_trans (List.length_filter_le _ _) r.length_le

/-- Drops the head. -/
def tail (r : Roster κ α) : Roster κ α where
  pairs := r.pairs.tail
  capacity := r.capacity
  nodup_keys := r.nodup_keys.sublist ((List.tail_sublist _).map Prod.fst)
  one_le_capacity := r.one_le_capacity
  length_le := Nat.le_trans (List.tail_sublist _).length_le r.length_le

theorem contains_eq_false_iff {r : Roster κ α} {k : κ} :
    r.contains k = false ↔ ∀ p ∈ r.pairs, p.1 ≠ k := by
  simp [contains]

theorem contains_eq_true_iff {r : Roster κ α} {k : κ} :
    r.contains k = true ↔ ∃ p ∈ r.pairs, p.1 = k := by
  simp [contains]

/-- Puts a pair with another key at the end, where there is room for it. -/
def concat (r : Roster κ α) (k : κ) (v : α) (hnew : r.contains k = false)
    (hroom : r.pairs.length < r.capacity) : Roster κ α where
  pairs := r.pairs ++ [(k, v)]
  capacity := r.capacity
  nodup_keys := by
    rw [List.map_append, List.nodup_append]
    refine ⟨r.nodup_keys, List.nodup_singleton k, ?_⟩
    intro x hx y hy
    obtain ⟨p, hp, rfl⟩ := List.mem_map.mp hx
    obtain rfl : y = k := by simpa using hy
    exact contains_eq_false_iff.mp hnew p hp
  one_le_capacity := r.one_le_capacity
  length_le := by
    rw [List.length_append, List.length_singleton]
    exact hroom

theorem contains_erase_self (r : Roster κ α) (k : κ) : (r.erase k).contains k = false := by
  rw [contains_eq_false_iff]
  intro p hp
  simpa using (List.mem_filter.mp hp).2

/-- Taking a key off makes room. -/
theorem length_erase_lt {r : Roster κ α} {k : κ} (hk : r.contains k = true) :
    (r.erase k).pairs.length < (r.erase k).capacity := by
  obtain ⟨p, hp, rfl⟩ := contains_eq_true_iff.mp hk
  refine Nat.lt_of_lt_of_le ?_ r.length_le
  exact List.length_filter_lt_length_iff_exists.mpr ⟨p, hp, by simp⟩

theorem contains_tail {r : Roster κ α} {k : κ} (hk : r.contains k = false) :
    r.tail.contains k = false := by
  rw [contains_eq_false_iff] at hk ⊢
  exact fun p hp => hk p (List.mem_of_mem_tail hp)

omit [BEq κ] [LawfulBEq κ] in
/-- Dropping the head makes room. -/
theorem length_tail_lt (r : Roster κ α) : r.tail.pairs.length < r.tail.capacity := by
  show r.pairs.tail.length < r.capacity
  have hle := r.length_le
  have hone := r.one_le_capacity
  rw [List.length_tail]
  omega

/-- Puts a key at the end. A key that was on the roster is moved there; for another one a full
roster drops its head, which is answered. -/
def insert (r : Roster κ α) (k : κ) (v : α) : Option (κ × α) × Roster κ α :=
  if hk : r.contains k = true then
    (none, (r.erase k).concat k v (r.contains_erase_self k) (length_erase_lt hk))
  else if hroom : r.pairs.length < r.capacity then
    (none, r.concat k v (by simpa using hk) hroom)
  else
    (r.pairs.head?, r.tail.concat k v (contains_tail (by simpa using hk)) r.length_tail_lt)

/-- Changes the value of a key in its place. -/
def modify (r : Roster κ α) (k : κ) (f : α → α) : Roster κ α where
  pairs := r.pairs.map fun p => if p.1 == k then (p.1, f p.2) else p
  capacity := r.capacity
  nodup_keys := by
    have hkeys : (Prod.fst ∘ fun p : κ × α => if p.1 == k then (p.1, f p.2) else p) = Prod.fst := by
      funext p
      simp only [Function.comp_apply]
      split <;> rfl
    rw [List.map_map, hkeys]
    exact r.nodup_keys
  one_le_capacity := r.one_le_capacity
  length_le := by
    rw [List.length_map]
    exact r.length_le

/-- What an operation answers, and the roster behind it. -/
def perform (r : Roster κ α) : MapOperation κ α → MapResult κ α × Roster κ α
  | .insert k v => (.evicted (r.insert k v).1, (r.insert k v).2)
  | .get k => (.found (r.get? k), r)
  | .modify k f => (.found (r.get? k), r.modify k f)
  | .remove k => (.found (r.get? k), r.erase k)

@[simp] theorem capacity_perform (r : Roster κ α) (op : MapOperation κ α) :
    (r.perform op).2.capacity = r.capacity := by
  cases op with
  | insert k v =>
    simp only [perform, insert]
    split
    · rfl
    · split <;> rfl
  | get k | modify k f | remove k => rfl

/-- What is seen while a sequence of operations is done. -/
def transcript (r : Roster κ α) : List (MapOperation κ α) → List (MapView κ α)
  | [] => []
  | op :: ops =>
    ⟨(r.perform op).1, (r.perform op).2.pairs.length, (r.perform op).2.pairs.isEmpty⟩ ::
      transcript (r.perform op).2 ops

/-- The roster behind a sequence of operations. -/
def after (r : Roster κ α) (ops : List (MapOperation κ α)) : Roster κ α :=
  ops.foldl (fun r op => (r.perform op).2) r

@[simp] theorem capacity_after (r : Roster κ α) (ops : List (MapOperation κ α)) :
    (r.after ops).capacity = r.capacity := by
  induction ops generalizing r with
  | nil => rfl
  | cons op ops ih => exact (ih (r.perform op).2).trans (r.capacity_perform op)

/-- A key has the value that it is paired with. -/
theorem get?_eq_some_iff {r : Roster κ α} {k : κ} {v : α} :
    r.get? k = some v ↔ (k, v) ∈ r.pairs := by
  obtain ⟨pairs, capacity, hkeys, hone, hle⟩ := r
  show pairs.lookup k = some v ↔ (k, v) ∈ pairs
  clear hone hle
  induction pairs with
  | nil => simp
  | cons p rest ih =>
    obtain ⟨k', v'⟩ := p
    rw [List.map_cons, List.nodup_cons] at hkeys
    rw [List.lookup_cons]
    by_cases hk : k = k'
    · subst hk
      -- the key is not paired again behind its pair
      have hrest : (k, v) ∉ rest := fun hmem => hkeys.1 (List.mem_map.mpr ⟨_, hmem, rfl⟩)
      simp [hrest, eq_comm]
    · have hne : (k == k') = false := by simpa using hk
      rw [hne, ih hkeys.2]
      simp [hk]

end Roster

namespace Bounded

variable {κ α : Type} [BEq κ] [Hashable κ]

/-! ### Maps and their rosters -/

/-- What an operation answers, and the map behind it. -/
def perform (m : Bounded κ α) : MapOperation κ α → MapResult κ α × Bounded κ α
  | .insert k v => (.evicted (m.insert k v).1, (m.insert k v).2)
  | .get k => (.found (m.get? k), m)
  | .modify k f => (.found (m.get? k), m.modify k f)
  | .remove k => (.found (m.remove k).1, (m.remove k).2)

/-- What is seen while a sequence of operations is done. -/
def transcript (m : Bounded κ α) : List (MapOperation κ α) → List (MapView κ α)
  | [] => []
  | op :: ops =>
    ⟨(m.perform op).1, (m.perform op).2.size, (m.perform op).2.isEmpty⟩ ::
      transcript (m.perform op).2 ops

/-- The map behind a sequence of operations. -/
def after (m : Bounded κ α) (ops : List (MapOperation κ α)) : Bounded κ α :=
  ops.foldl (fun m op => (m.perform op).2) m

/-- A map has the pairs of a roster, in their order. -/
structure Represents (m : Bounded κ α) (r : Roster κ α) : Prop where
  valid : m.Valid
  toList_eq : m.toList = r.pairs
  capacity_eq : m.capacity = r.capacity

variable [LawfulBEq κ] {m : Bounded κ α} {r : Roster κ α}

omit [LawfulBEq κ] in
theorem represents_empty (capacity : Nat) :
    (empty capacity : Bounded κ α).Represents (.empty capacity) :=
  ⟨valid_empty capacity, rfl, rfl⟩

namespace Represents

theorem size_eq (h : m.Represents r) : m.size = r.pairs.length := by
  rw [← h.toList_eq, h.valid.length_toList]

theorem isEmpty_eq (h : m.Represents r) : m.isEmpty = r.pairs.isEmpty := by
  have hsize := h.size_eq
  rw [size] at hsize
  rw [isEmpty, Std.HashMap.isEmpty_eq_size_eq_zero, hsize]
  cases r.pairs <;> rfl

theorem get?_eq (h : m.Represents r) (k : κ) : m.get? k = r.get? k := by
  apply Option.ext
  intro v
  rw [← h.valid.mem_toList_iff, h.toList_eq, Roster.get?_eq_some_iff]

theorem insert (h : m.Represents r) (k : κ) (v : α) :
    (m.insert k v).1 = (r.insert k v).1 ∧ (m.insert k v).2.Represents (r.insert k v).2 := by
  obtain ⟨hfst, hlist, hcap, hvalid⟩ := h.valid.insert k v
  rw [h.valid.toList_put, h.toList_eq, h.capacity_eq] at hfst hlist
  rw [h.capacity_eq] at hcap
  unfold Roster.insert
  split
  · rename_i hk
    -- the key is moved, and no pair is added
    have hle : (r.pairs.filter (fun p => p.1 != k) ++ [(k, v)]).length ≤ r.capacity := by
      rw [List.length_append, List.length_singleton]
      exact Roster.length_erase_lt hk
    rw [if_neg (Nat.not_lt.mpr hle)] at hfst hlist
    exact ⟨hfst, hvalid, hlist, hcap⟩
  · rename_i hk
    have hnew : r.pairs.filter (fun p => p.1 != k) = r.pairs := by
      rw [List.filter_eq_self]
      intro p hp
      have hne := Roster.contains_eq_false_iff.mp (by simpa using hk) p hp
      simpa using hne
    rw [hnew, List.length_append, List.length_singleton] at hfst hlist
    split
    · rename_i hroom
      have hle : ¬ r.capacity < r.pairs.length + 1 := by omega
      rw [if_neg hle] at hfst hlist
      exact ⟨hfst, hvalid, hlist, hcap⟩
    · rename_i hfull
      have hlt : r.capacity < r.pairs.length + 1 := by omega
      -- a full roster has a head, and the new pair is not it
      have hne : r.pairs ≠ [] := by
        intro hnil
        have hone := r.one_le_capacity
        rw [hnil, List.length_nil] at hlt
        omega
      rw [if_pos hlt] at hfst hlist
      rw [List.head?_append_of_ne_nil _ hne] at hfst
      rw [List.tail_append_of_ne_nil hne] at hlist
      exact ⟨hfst, hvalid, hlist, hcap⟩

theorem modify (h : m.Represents r) (k : κ) (f : α → α) :
    (m.modify k f).Represents (r.modify k f) := by
  obtain ⟨hlist, hcap, hvalid⟩ := h.valid.modify k f
  rw [h.toList_eq] at hlist
  rw [h.capacity_eq] at hcap
  exact ⟨hvalid, hlist, hcap⟩

theorem remove (h : m.Represents r) (k : κ) : (m.remove k).2.Represents (r.erase k) := by
  obtain ⟨hlist, hcap, hvalid⟩ := h.valid.remove k
  rw [h.toList_eq] at hlist
  rw [h.capacity_eq] at hcap
  exact ⟨hvalid, hlist, hcap⟩

/-- An operation answers the same on a map and on its roster, and leaves a map and its roster. -/
theorem perform (h : m.Represents r) (op : MapOperation κ α) :
    (m.perform op).1 = (r.perform op).1 ∧ (m.perform op).2.Represents (r.perform op).2 := by
  cases op with
  | insert k v =>
    obtain ⟨hfst, hsnd⟩ := h.insert k v
    exact ⟨congrArg MapResult.evicted hfst, hsnd⟩
  | get k => exact ⟨congrArg MapResult.found (h.get?_eq k), h⟩
  | modify k f => exact ⟨congrArg MapResult.found (h.get?_eq k), h.modify k f⟩
  | remove k =>
    refine ⟨congrArg MapResult.found ?_, h.remove k⟩
    rw [fst_remove, h.get?_eq]

/-- Nothing that is seen tells a map from its roster. -/
theorem transcript (h : m.Represents r) (ops : List (MapOperation κ α)) :
    m.transcript ops = r.transcript ops := by
  induction ops generalizing m r with
  | nil => rfl
  | cons op ops ih =>
    obtain ⟨hresult, hrest⟩ := h.perform op
    rw [Bounded.transcript, Roster.transcript, hresult, hrest.size_eq, hrest.isEmpty_eq, ih hrest]

theorem after (h : m.Represents r) (ops : List (MapOperation κ α)) :
    (m.after ops).Represents (r.after ops) := by
  induction ops generalizing m r with
  | nil => exact h
  | cons op ops ih => exact ih (h.perform op).2

end Represents

/-! ### Maps that are full -/

/-- A new key in a full map takes the place of one other key, and all the others stay. -/
theorem Valid.exists_evicted (h : m.Valid) {k : κ} (v : α) (hnew : m.get? k = none)
    (hfull : m.size = m.capacity) :
    ∃ p, (m.insert k v).1 = some p ∧ p.1 ≠ k ∧ (m.insert k v).2.size = m.size ∧
      ∀ x, (m.insert k v).2.get? x =
        if x == k then some v else if x == p.1 then none else m.get? x := by
  have hlength : (m.put k v).toList.length = m.size + 1 := by
    rw [h.toList_put_of_new v hnew, List.length_append, List.length_singleton, h.length_toList]
  obtain ⟨-, hlist, -, hvalid⟩ := h.insert k v
  rw [if_pos (by omega)] at hlist
  have hfst := h.fst_insert_of_full v hnew hfull
  cases hm : m.toList with
  | nil =>
    have hempty := h.length_toList
    have hone := h.one_le_capacity
    rw [hm, List.length_nil] at hempty
    omega
  | cons p rest =>
    rw [hm, List.head?_cons] at hfst
    obtain ⟨hne, -, hgone⟩ := h.get?_of_fst_insert hfst
    refine ⟨p, hfst, hne, ?_, fun x => ?_⟩
    · rw [← hvalid.length_toList, hlist, List.length_tail, hlength, Nat.add_sub_cancel]
    · by_cases hxk : x = k
      · subst hxk
        rw [h.get?_insert_self, if_pos (by simp)]
      · rw [if_neg (by simpa using hxk)]
        by_cases hxp : x = p.1
        · rw [hxp, hgone, if_pos (by simp)]
        · rw [if_neg (by simpa using hxp), h.get?_insert_of_ne hxk]
          rintro v' hv'
          rw [hfst, Option.some.injEq] at hv'
          exact hxp (by rw [hv'])

/-- No sequence of operations tells a bounded map from a roster: after each of them its answer, the
number of entries and whether there are any are the same. So there are never more entries than the
capacity, which is one if zero is asked for, and a new key in a full map takes the place of exactly
one other key. -/
theorem transcript_eq_transcript (capacity : Nat) (ops : List (MapOperation κ α)) :
    (empty capacity : Bounded κ α).transcript ops = (Roster.empty capacity).transcript ops ∧
      ((empty capacity : Bounded κ α).after ops).size ≤ max capacity 1 ∧
      ∀ k v, ((empty capacity : Bounded κ α).after ops).get? k = none →
        ((empty capacity : Bounded κ α).after ops).size = max capacity 1 →
        ∃ p, (((empty capacity : Bounded κ α).after ops).insert k v).1 = some p ∧ p.1 ≠ k ∧
          (((empty capacity : Bounded κ α).after ops).insert k v).2.size = max capacity 1 ∧
          ∀ x, (((empty capacity : Bounded κ α).after ops).insert k v).2.get? x =
            if x == k then some v else if x == p.1 then none
            else ((empty capacity : Bounded κ α).after ops).get? x := by
  have hempty : (empty capacity : Bounded κ α).Represents (.empty capacity) :=
    represents_empty capacity
  have hafter := hempty.after ops
  have hcap : ((empty capacity : Bounded κ α).after ops).capacity = max capacity 1 :=
    hafter.capacity_eq.trans (Roster.capacity_after _ ops)
  refine ⟨hempty.transcript ops, ?_, fun k v hnew hfull => ?_⟩
  · rw [← hcap]
    exact hafter.valid.size_le
  · obtain ⟨p, hp, hne, hsize, hget⟩ :=
      hafter.valid.exists_evicted v hnew (hfull.trans hcap.symm)
    exact ⟨p, hp, hne, hsize.trans hfull, hget⟩

/-- Inserting a key again makes it the youngest, and changing a value does not; a map for no entries
holds one, which the next key drops. -/
theorem transcript_refreshed :
    (empty 2 : Bounded String Int).transcript
        [.insert "a" 1, .insert "b" 2, .insert "a" 10, .modify "b" (· + 5), .insert "c" 3,
          .remove "a", .get "a"] =
      [⟨.evicted none, 1, false⟩, ⟨.evicted none, 2, false⟩, ⟨.evicted none, 2, false⟩,
        ⟨.found (some 2), 2, false⟩, ⟨.evicted (some ("b", 7)), 2, false⟩,
        ⟨.found (some 10), 1, false⟩, ⟨.found none, 1, false⟩] ∧
      ∃ p, (((empty 0 : Bounded String Int).after [.insert "a" 1]).insert "b" 2).1 = some p ∧
        p.1 ≠ "b" := by
  constructor
  · rw [(transcript_eq_transcript 2 _).1]
    decide
  · have hafter := (represents_empty (κ := String) (α := Int) 0).after [.insert "a" 1]
    have hnew : ((empty 0 : Bounded String Int).after [.insert "a" 1]).get? "b" = none := by
      rw [hafter.get?_eq]
      decide
    have hfull : ((empty 0 : Bounded String Int).after [.insert "a" 1]).size = max 0 1 := by
      rw [hafter.size_eq]
      decide
    obtain ⟨p, hp, hne, -⟩ := (transcript_eq_transcript 0 [.insert "a" 1]).2.2 "b" 2 hnew hfull
    exact ⟨p, hp, hne⟩

end Bounded

end FlowAudit
