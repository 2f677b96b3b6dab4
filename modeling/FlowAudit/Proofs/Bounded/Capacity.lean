import FlowAudit.Proofs.Bounded.View

/-!
# How much a bounded map holds

A map holds up to `n` entries and no more if it grows by one with every new key until there are `n`
entries, and stays at `n` from then on (`Bounded.HoldsUpTo`). A valid map holds up to its capacity
(`Valid.holdsUpTo`). The capacity is never zero, so no map holds up to zero entries: it takes in the
first key it is given (`Valid.not_holdsUpTo_zero`).
-/

namespace FlowAudit.Bounded

variable {κ α : Type} [BEq κ] [Hashable κ] {m : Bounded κ α}

/-- The map after some pairs were inserted one after the other. -/
def insertAll (m : Bounded κ α) (ps : List (κ × α)) : Bounded κ α :=
  ps.foldl (fun m p => (m.insert p.1 p.2).2) m

/-- A map holds up to `n` entries and no more: new keys add entries until there are `n`. -/
def HoldsUpTo (m : Bounded κ α) (n : Nat) : Prop :=
  ∀ ps : List (κ × α), (ps.map Prod.fst).Nodup → (∀ p ∈ ps, m.get? p.1 = none) →
    (m.insertAll ps).size = min n (m.size + ps.length)

theorem HoldsUpTo.size_le {n : Nat} (h : m.HoldsUpTo n) : m.size ≤ n := by
  have hnone : m.size = min n m.size := h [] List.nodup_nil (List.forall_mem_nil _)
  rw [hnone]
  exact Nat.min_le_left n m.size

variable [LawfulBEq κ]

/-- A new key adds an entry, unless the map is full. -/
theorem Valid.size_insert_of_new (h : m.Valid) {k : κ} (v : α) (hnew : m.get? k = none) :
    (m.insert k v).2.size = min m.capacity (m.size + 1) := by
  obtain ⟨-, hlist, -, hvalid⟩ := h.insert k v
  have hlength : (m.put k v).toList.length = m.size + 1 := by
    rw [h.toList_put_of_new v hnew, List.length_append, h.length_toList, List.length_singleton]
  have hle := h.size_le
  rw [← hvalid.length_toList, hlist]
  split
  · rw [List.length_tail]
    omega
  · omega

/-- A valid map holds up to its capacity and no more. -/
theorem Valid.holdsUpTo (h : m.Valid) : m.HoldsUpTo m.capacity := by
  intro ps hnodup hnew
  induction ps generalizing m with
  | nil => exact (Nat.min_eq_right h.size_le).symm
  | cons p ps ih =>
    rw [List.map_cons, List.nodup_cons] at hnodup
    rw [List.forall_mem_cons] at hnew
    obtain ⟨-, -, hcapacity, hvalid⟩ := h.insert p.1 p.2
    have hnew' : ∀ q ∈ ps, (m.insert p.1 p.2).2.get? q.1 = none := by
      intro q hq
      rw [Option.eq_none_iff_forall_ne_some]
      intro v hv
      rcases h.get?_of_insert hv with ⟨heq, -⟩ | hold
      · exact hnodup.1 (List.mem_map.mpr ⟨q, hq, heq⟩)
      · rw [hnew.2 q hq] at hold
        cases hold
    have hrest := ih hvalid hnodup.2 hnew'
    rw [hcapacity, h.size_insert_of_new p.2 hnew.1] at hrest
    calc (m.insertAll (p :: ps)).size
        = min m.capacity (min m.capacity (m.size + 1) + ps.length) := hrest
      _ = min m.capacity (m.size + (p :: ps).length) := by
        rw [List.length_cons]
        omega

/-- A valid map takes in a key it is given, so it does not hold up to zero entries. -/
theorem Valid.not_holdsUpTo_zero (h : m.Valid) (k : κ) (v : α) : ¬ m.HoldsUpTo 0 := by
  intro hzero
  have hempty : m.toList = [] := by
    rw [← List.length_eq_zero_iff, h.length_toList]
    exact Nat.le_zero.mp hzero.size_le
  have hnew : m.get? k = none := by
    rw [← Option.not_isSome_iff_eq_none, ← h.mem_keys_iff, hempty]
    exact List.not_mem_nil
  have hone := h.size_insert_of_new v hnew
  have hnone := hzero [(k, v)] (List.nodup_singleton k) (List.forall_mem_singleton.mpr hnew)
  have hcapacity := h.one_le_capacity
  rw [Nat.zero_min] at hnone
  have hsame : (m.insert k v).2.size = 0 := hnone
  omega

end FlowAudit.Bounded
