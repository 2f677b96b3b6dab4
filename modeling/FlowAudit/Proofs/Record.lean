import FlowAudit.Record

/-!
# What a record tells about the process

The record of an OPEN names the process of its event, if one is known, and that of a CLOSE names
none. A process is named by members of the JSON object that are there only then.
-/

namespace FlowAudit.Record

/-- The names of the members of the JSON object. -/
def keys (r : Record) : List String :=
  r.members.map Prod.fst

variable {agent : Uuid} {e : Event} {r : Record}

/-- The record of an OPEN names the process of the event. -/
theorem owner_ofEvent (h : e.phase = .opened) :
    (ofEvent agent e).owner =
      e.resolution.attribution.map fun a => ⟨e.resolution.inode.getD 0, a⟩ := by
  simp only [ofEvent, h]

/-- The record of a CLOSE names no process. -/
theorem owner_ofEvent_closed (h : e.phase = .closed) : (ofEvent agent e).owner = none := by
  simp only [ofEvent, h]

theorem programDetails_mem_keys_iff : "program_details" ∈ r.keys ↔ r.owner ≠ none := by
  cases howner : r.owner <;> simp [keys, members, howner, Owner.members]

/-- A record that names no process has none of the members for one. -/
theorem notMem_keys_of_owner (h : r.owner = none) :
    ∀ name ∈ ["username", "uid", "program_details"], name ∉ r.keys := by
  simp [keys, members, h]

end FlowAudit.Record
