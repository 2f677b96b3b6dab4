import FlowAudit.Proofs.Pipeline.Trace
import FlowAudit.Proofs.Record

/-!
# What the counters of a pipeline count

Every transition is counted once, by what became of it: a record, a repetition, an event that a
rule left out, or the CLOSE of a connection whose OPEN was left out (`Pipeline.total_process`). A
CLOSE of the last kind takes away the mark that the OPEN left, and only an OPEN that is left out
leaves one, so these CLOSEs and the marks together are never more than these OPENs
(`Pipeline.suppressedCloses_process`). Both hold along a whole run (`Pipeline.counters_of_run`).
-/

namespace FlowAudit

/-! ### Counting entries of a bounded map -/

namespace Bounded

variable {κ α : Type} [BEq κ] [Hashable κ] [LawfulBEq κ] {m : Bounded κ α} (q : κ × α → Bool)

/-- A pair that does not count makes an insertion count no more pairs than before. -/
theorem Valid.countP_insert_le (h : m.Valid) {k : κ} {v : α} (hv : q (k, v) = false) :
    (m.insert k v).2.toList.countP q ≤ m.toList.countP q := by
  have hput : (m.put k v).toList.countP q ≤ m.toList.countP q := by
    rw [h.toList_put, List.countP_append, List.countP_singleton, hv]
    exact List.filter_sublist.countP_le
  rw [(h.insert k v).2.1]
  split
  · exact Nat.le_trans (List.tail_sublist _).countP_le hput
  · exact hput

/-- Changing a value changes one pair at most. -/
theorem Valid.countP_modify_le (h : m.Valid) (k : κ) (f : α → α) :
    (m.modify k f).toList.countP q ≤ m.toList.countP q + 1 := by
  have hone : m.toList.countP (fun p => p.1 == k) ≤ 1 := by
    have hcount := List.nodup_iff_count_le_one.mp h.nodup_keys k
    rwa [List.count, List.countP_map] at hcount
  rw [(h.modify k f).1, List.countP_map]
  refine Nat.le_trans ?_ (Nat.add_le_add_left hone _)
  induction m.toList with
  | nil => exact Nat.le_refl _
  | cons p rest ih =>
    simp only [List.countP_cons, Function.comp_apply] at ih ⊢
    by_cases hk : p.1 == k
    · simp only [hk, if_true]
      split <;> split <;> omega
    · simp only [hk, if_false, Bool.false_eq_true]
      omega

theorem Valid.countP_remove_le (h : m.Valid) (k : κ) :
    (m.remove k).2.toList.countP q ≤ m.toList.countP q := by
  rw [(h.remove k).1]
  exact List.filter_sublist.countP_le

/-- A pair that counts is missing after it was removed. -/
theorem Valid.countP_remove_lt (h : m.Valid) {k : κ} {v : α} (hget : m.get? k = some v)
    (hv : q (k, v) = true) : (m.remove k).2.toList.countP q < m.toList.countP q := by
  rw [(h.remove k).1, List.countP_eq_countP_filter_add m.toList q fun p => p.1 != k]
  refine Nat.lt_add_of_pos_right (List.countP_pos_iff.mpr ⟨(k, v), ?_, hv⟩)
  rw [List.mem_filter]
  exact ⟨h.mem_toList_iff.mpr hget, by simp⟩

end Bounded

/-! ### Marks in the correlator -/

namespace Correlator

variable {c : Correlator} {o : Observation}

/-- The number of connections remembered with the mark that their OPEN was left out. -/
def marked (c : Correlator) : Nat :=
  c.opened.toList.countP fun x => x.2.suppressed

/-- An observation by itself marks nothing. -/
theorem marked_correlate_le (hv : c.opened.Valid) (o : Observation) :
    (c.correlate o).2.marked ≤ c.marked := by
  have hc := c.correlates o
  generalize c.correlate o = x at hc ⊢
  cases hc with
  | duplicate => exact Nat.le_refl _
  | opened => exact hv.countP_insert_le _ rfl
  | suppressed | paired | orphan => exact hv.countP_remove_le _ _

/-- The CLOSE of a marked connection takes the mark away. -/
theorem marked_correlate_lt (hv : c.opened.Valid) {s : OpenConnection}
    (hphase : o.transition.phase = .closed) (hs : c.remembered o.hash = some s)
    (hsup : s.suppressed = true) : (c.correlate o).2.marked < c.marked := by
  have hc := c.correlates o
  generalize c.correlate o = x at hc ⊢
  cases hc with
  | duplicate hphase' | opened hphase' => cases hphase.symm.trans hphase'
  | suppressed | paired | orphan => exact hv.countP_remove_lt _ hs hsup

theorem marked_markSuppressed_le (hv : c.opened.Valid) (h : ConnectionHash) :
    (c.markSuppressed h).marked ≤ c.marked + 1 :=
  hv.countP_modify_le _ h _

end Correlator

/-- Whether a record is of an OPEN and names no process. -/
def Record.isUnattributed (r : Record) : Bool :=
  r.phase = .opened ∧ "program_details" ∉ r.keys

theorem Record.isUnattributed_ofEvent (agent : Uuid) (e : Event) :
    (ofEvent agent e).isUnattributed =
      (e.phase = .opened && e.resolution.attribution.isNone) := by
  have hphase : (ofEvent agent e).phase = e.phase := rfl
  rw [Bool.eq_iff_iff, isUnattributed, decide_eq_true_eq, programDetails_mem_keys_iff, hphase,
    Bool.and_eq_true, decide_eq_true_eq, Option.isNone_iff_eq_none, not_not]
  refine and_congr_right fun hopened => ?_
  rw [owner_ofEvent hopened, Option.map_eq_none_iff]

namespace Pipeline

open Correlator (Observation)

/-! ### One observation -/

/-- The number of transitions that are counted. -/
def total (p : Pipeline) : Nat :=
  p.counters.emitted + p.counters.duplicates + p.counters.droppedNonProcess +
    p.counters.droppedDns + p.counters.droppedSelf + p.counters.suppressedCloses

/-- Whether an observation is an OPEN that the filter leaves out. -/
def dropsOpen (p : Pipeline) (o : Observation) : Bool :=
  match (p.correlator.correlate o).1 with
  | .event e => e.phase = .opened && p.filter.verdict e ≠ .keep
  | _ => false

/-- The number of OPENs in a run that the filter leaves out. -/
def droppedOpens (p : Pipeline) (os : List Observation) : Nat :=
  (p.trace os).countP fun x => x.1.dropsOpen x.2

variable {p : Pipeline} {o : Observation}

theorem dropsOpen_of_drop {reason : DropReason} (hphase : o.transition.phase = .opened)
    (hdup : p.correlator.isDuplicate o.hash o.now = false)
    (hverdict : p.filter.verdict (o.event o.fresh) = .drop reason) : p.dropsOpen o = true := by
  have hopened : (o.event o.fresh).phase = .opened := hphase
  simp [dropsOpen, Correlator.fst_correlate_opened hphase hdup, hopened, hverdict]

/-- Every observation is counted once. -/
theorem total_process (p : Pipeline) (o : Observation) : (p.process o).2.total = p.total + 1 := by
  have hf := p.fates o
  generalize p.process o = x at hf ⊢
  cases hf with
  | duplicate | closeSuppressed | openKept | closePaired | orphanKept =>
    simp only [total, PipelineCounters.countEmitted]
    omega
  | openDropped reason | orphanDropped reason =>
    cases reason <;> simp only [total, PipelineCounters.countDrop] <;> omega

/-- What is counted as unattributed are the records of OPENs that name no process. -/
theorem unattributed_process (p : Pipeline) (o : Observation) :
    (p.process o).2.counters.unattributed =
      p.counters.unattributed + (p.process o).1.toList.countP Record.isUnattributed := by
  have hf := p.fates o
  generalize p.process o = x at hf ⊢
  cases hf with
  | duplicate | closeSuppressed => rfl
  | openDropped reason | orphanDropped reason => cases reason <;> rfl
  | openKept | closePaired | orphanKept =>
    rw [Option.toList_some, List.countP_singleton, Record.isUnattributed_ofEvent]
    rfl

/-- A CLOSE that is suppressed takes a mark away, and only an OPEN that the filter leaves out brings
one. -/
theorem suppressedCloses_process (hv : p.correlator.opened.Valid) (o : Observation) :
    (p.process o).2.counters.suppressedCloses + (p.process o).2.correlator.marked ≤
      p.counters.suppressedCloses + p.correlator.marked + (p.dropsOpen o).toNat := by
  have hle := Correlator.marked_correlate_le hv o
  have hf := p.fates o
  generalize p.process o = x at hf ⊢
  cases hf with
  | duplicate | openKept | closePaired | orphanKept =>
    simp only [PipelineCounters.countEmitted]
    omega
  | orphanDropped reason =>
    cases reason <;> simp only [PipelineCounters.countDrop] <;> omega
  | closeSuppressed s hphase hs hsup =>
    have hlt := Correlator.marked_correlate_lt hv hphase hs hsup
    simp only
    omega
  | openDropped reason hphase hdup hverdict =>
    have hmark := Correlator.marked_markSuppressed_le (Correlator.valid_correlate hv o).1 o.hash
    rw [dropsOpen_of_drop hphase hdup hverdict, Bool.toNat_true]
    cases reason <;> simp only [PipelineCounters.countDrop] <;> omega

/-- A record is made of an event. -/
theorem exists_event_of_process {r : Record} (hr : (p.process o).1 = some r) :
    ∃ e, r = .ofEvent p.agent e := by
  have hf := p.fates o
  generalize p.process o = x at hf hr
  cases hf with
  | duplicate | openDropped | closeSuppressed | orphanDropped => cases hr
  | openKept | closePaired | orphanKept => exact ⟨_, (Option.some.inj hr).symm⟩

/-! ### Runs -/

theorem droppedOpens_cons (p : Pipeline) (o : Observation) (os : List Observation) :
    p.droppedOpens (o :: os) = (p.dropsOpen o).toNat + (p.process o).2.droppedOpens os := by
  rw [droppedOpens, trace_cons, List.countP_cons, Nat.add_comm, ← droppedOpens]
  cases p.dropsOpen o <;> rfl

/-- What a run adds to the counters. -/
theorem counters_after (hv : p.correlator.opened.Valid) (os : List Observation) :
    (p.after os).total = p.total + os.length ∧
      (p.after os).counters.emitted = p.counters.emitted + (p.records os).length ∧
      (p.after os).counters.unattributed =
        p.counters.unattributed + (p.records os).countP Record.isUnattributed ∧
      (p.after os).counters.suppressedCloses + (p.after os).correlator.marked ≤
        p.counters.suppressedCloses + p.correlator.marked + p.droppedOpens os := by
  induction os generalizing p with
  | nil => exact ⟨rfl, rfl, rfl, Nat.le_refl _⟩
  | cons o os ih =>
    obtain ⟨htotal, hemitted, hunattributed, hsuppressed⟩ := ih (valid_process hv o).1
    have htotal' := p.total_process o
    have hemitted' := p.emitted_process o
    have hunattributed' := p.unattributed_process o
    have hsuppressed' := suppressedCloses_process hv o
    rw [after_cons, records_cons, List.length_append, List.countP_append, droppedOpens_cons,
      List.length_cons]
    refine ⟨?_, ?_, ?_, ?_⟩ <;> omega

/-- In every run the transitions are those that became records, were repeated, were left out by one
of the rules or were suppressed, each of them counted once. The records are those counted as
emitted, and those of OPENs that name no process the ones counted as unattributed. Not more CLOSEs
are suppressed than OPENs were left out by the filter. And no record of a CLOSE tells anything about
a process. -/
theorem counters_of_run (agent : Uuid) (settings : CorrelatorSettings) (f : Filter)
    (os : List Observation) :
    let p := Pipeline.new agent settings f
    let c := (p.after os).counters
    os.length = c.emitted + c.duplicates + c.droppedNonProcess + c.droppedDns + c.droppedSelf +
        c.suppressedCloses ∧
      c.emitted = (p.records os).length ∧
      c.unattributed = (p.records os).countP
        (fun r => r.phase = .opened ∧ "program_details" ∉ r.keys) ∧
      c.suppressedCloses ≤ p.droppedOpens os ∧
      ∀ r ∈ p.records os, r.phase = .closed →
        ∀ name ∈ ["username", "uid", "program_details"], name ∉ r.keys := by
  intro p c
  obtain ⟨htotal, hemitted, hunattributed, hsuppressed⟩ :=
    counters_after (p := p) (Correlator.valid_new settings) os
  have hcounters : p.counters = {} := rfl
  have htotal₀ : p.total = 0 := rfl
  have hmarked : p.correlator.marked = 0 := rfl
  rw [hcounters] at hemitted hunattributed hsuppressed
  rw [htotal₀] at htotal
  rw [hmarked] at hsuppressed
  refine ⟨?_, ?_, ?_, ?_, ?_⟩
  · exact (htotal.trans (Nat.zero_add _)).symm
  · exact hemitted.trans (Nat.zero_add _)
  · exact hunattributed.trans (Nat.zero_add _)
  · change c.suppressedCloses + _ ≤ 0 + 0 + _ at hsuppressed
    omega
  · intro r hr hclosed
    obtain ⟨x, -, hx⟩ := List.mem_filterMap.mp hr
    obtain ⟨e, rfl⟩ := exists_event_of_process hx
    exact Record.notMem_keys_of_owner (Record.owner_ofEvent_closed hclosed)

end Pipeline

end FlowAudit
