import FlowAudit.Pipeline
import FlowAudit.Proofs.Correlator.Step

/-!
# Runs of the pipeline

`Pipeline.trace` is a run over a sequence of observations, as the list of the observations with the
pipeline that meets each of them; `Pipeline.records` are the records that the run makes. `fates`
lists what can become of one observation. From it follow what an observation does to what is
remembered under its own hash and under other ones, and that a record is about the transition it was
made of.
-/

namespace FlowAudit.Pipeline

open Correlator (Observation)

/-! ### Runs -/

/-- The pipeline after a sequence of observations. -/
def after (p : Pipeline) (os : List Observation) : Pipeline :=
  os.foldl (fun p o => (p.process o).2) p

/-- The observations, each with the pipeline that meets it. -/
def trace (p : Pipeline) : List Observation → List (Pipeline × Observation)
  | [] => []
  | o :: os => (p, o) :: trace (p.process o).2 os

/-- The records made of a sequence of observations, in order. -/
def records (p : Pipeline) (os : List Observation) : List Record :=
  (p.trace os).filterMap fun x => (x.1.process x.2).1

@[simp] theorem after_nil (p : Pipeline) : p.after [] = p := rfl

@[simp] theorem after_cons (p : Pipeline) (o : Observation) (os : List Observation) :
    p.after (o :: os) = (p.process o).2.after os := rfl

theorem after_append (p : Pipeline) (os os' : List Observation) :
    p.after (os ++ os') = (p.after os).after os' :=
  List.foldl_append

@[simp] theorem trace_nil (p : Pipeline) : p.trace [] = [] := rfl

@[simp] theorem trace_cons (p : Pipeline) (o : Observation) (os : List Observation) :
    p.trace (o :: os) = (p, o) :: (p.process o).2.trace os := rfl

@[simp] theorem records_nil (p : Pipeline) : p.records [] = [] := rfl

theorem records_cons (p : Pipeline) (o : Observation) (os : List Observation) :
    p.records (o :: os) = (p.process o).1.toList ++ (p.process o).2.records os := by
  unfold records
  cases h : (p.process o).1 <;> simp [h]

/-- A part of a run is a run of the observations in it. -/
theorem trace_eq_append {p : Pipeline} {os : List Observation}
    {front back : List (Pipeline × Observation)} (h : p.trace os = front ++ back) :
    ∃ os₁ os₂, os = os₁ ++ os₂ ∧ p.trace os₁ = front ∧ (p.after os₁).trace os₂ = back := by
  induction front generalizing p os with
  | nil => exact ⟨[], os, rfl, rfl, h⟩
  | cons x front ih =>
    cases os with
    | nil => simp at h
    | cons o os =>
      rw [trace_cons, List.cons_append, List.cons.injEq] at h
      obtain ⟨hx, hrest⟩ := h
      obtain ⟨os₁, os₂, hos, hfront, hback⟩ := ih hrest
      exact ⟨o :: os₁, os₂, by rw [hos, List.cons_append], by rw [trace_cons, hfront, hx], hback⟩

/-- The observation that heads a part of a run is met by the pipeline after those in front. -/
theorem trace_eq_cons {p q : Pipeline} {o : Observation} {os : List Observation}
    {back : List (Pipeline × Observation)} (h : p.trace os = (q, o) :: back) :
    ∃ os', os = o :: os' ∧ q = p ∧ (p.process o).2.trace os' = back := by
  cases os with
  | nil => simp at h
  | cons o' os =>
    rw [trace_cons, List.cons.injEq, Prod.mk.injEq] at h
    obtain ⟨⟨rfl, rfl⟩, hback⟩ := h
    exact ⟨os, rfl, rfl, hback⟩

/-! ### The cases of `process` -/

/-- What can become of an observation, and the pipeline behind it. -/
inductive Fates (p : Pipeline) (o : Observation) : Option Record × Pipeline → Prop
  | duplicate (hphase : o.transition.phase = .opened)
    (hdup : p.correlator.isDuplicate o.hash o.now = true) :
    Fates p o (none, { p with
      correlator := (p.correlator.correlate o).2
      counters.duplicates := p.counters.duplicates + 1 })
  | openKept (hphase : o.transition.phase = .opened)
    (hdup : p.correlator.isDuplicate o.hash o.now = false)
    (hverdict : p.filter.verdict (o.event o.fresh) = .keep) :
    Fates p o (some (.ofEvent p.agent (o.event o.fresh)), { p with
      correlator := (p.correlator.correlate o).2
      counters := p.counters.countEmitted (o.event o.fresh) })
  | openDropped (reason : DropReason) (hphase : o.transition.phase = .opened)
    (hdup : p.correlator.isDuplicate o.hash o.now = false)
    (hverdict : p.filter.verdict (o.event o.fresh) = .drop reason) :
    Fates p o (none, { p with
      correlator := (p.correlator.correlate o).2.markSuppressed o.hash
      counters := p.counters.countDrop reason })
  | closeSuppressed (s : OpenConnection) (hphase : o.transition.phase = .closed)
    (hs : p.correlator.remembered o.hash = some s) (hsup : s.suppressed = true) :
    Fates p o (none, { p with
      correlator := (p.correlator.correlate o).2
      counters.suppressedCloses := p.counters.suppressedCloses + 1 })
  | closePaired (s : OpenConnection) (hphase : o.transition.phase = .closed)
    (hs : p.correlator.remembered o.hash = some s) (hsup : s.suppressed = false) :
    Fates p o (some (.ofEvent p.agent (o.event s.id)), { p with
      correlator := (p.correlator.correlate o).2
      counters := p.counters.countEmitted (o.event s.id) })
  | orphanKept (hphase : o.transition.phase = .closed)
    (hs : p.correlator.remembered o.hash = none)
    (hverdict : p.filter.verdict (o.event o.fresh) = .keep) :
    Fates p o (some (.ofEvent p.agent (o.event o.fresh)), { p with
      correlator := (p.correlator.correlate o).2
      counters := p.counters.countEmitted (o.event o.fresh) })
  | orphanDropped (reason : DropReason) (hphase : o.transition.phase = .closed)
    (hs : p.correlator.remembered o.hash = none)
    (hverdict : p.filter.verdict (o.event o.fresh) = .drop reason) :
    Fates p o (none, { p with
      correlator := (p.correlator.correlate o).2
      counters := p.counters.countDrop reason })

theorem fates (p : Pipeline) (o : Observation) : Fates p o (p.process o) := by
  have hc := p.correlator.correlates o
  unfold process
  rcases hr : p.correlator.correlate o with ⟨r, c⟩
  rw [hr] at hc
  cases hc with
  | duplicate hphase hdup =>
    have h := Fates.duplicate hphase hdup
    rwa [hr] at h
  | suppressed s hphase hs hsup =>
    have h := Fates.closeSuppressed s hphase hs hsup
    rwa [hr] at h
  | paired s hphase hs hsup =>
    have h := Fates.closePaired s hphase hs hsup
    rwa [hr] at h
  | opened hphase hdup =>
    cases hverdict : p.filter.verdict (o.event o.fresh) with
    | keep =>
      have h := Fates.openKept hphase hdup hverdict
      rw [hr] at h
      simpa only [hverdict, emit] using h
    | drop reason =>
      have h := Fates.openDropped reason hphase hdup hverdict
      have hphase' : (o.event o.fresh).phase = .opened := hphase
      rw [hr] at h
      simp only [hverdict, drop, hphase']
      exact h
  | orphan hphase hs =>
    cases hverdict : p.filter.verdict (o.event o.fresh) with
    | keep =>
      have h := Fates.orphanKept hphase hs hverdict
      rw [hr] at h
      simpa only [hverdict, emit] using h
    | drop reason =>
      have h := Fates.orphanDropped reason hphase hs hverdict
      have hphase' : (o.event o.fresh).phase = .closed := hphase
      rw [hr] at h
      simp only [hverdict, drop, hphase']
      exact h

/-! ### What one observation keeps and changes -/

section Process

variable {p : Pipeline} {o : Observation} {h : ConnectionHash}

/-- A record is about the transition that it was made of. -/
theorem of_mem_process {r : Record} (hr : (p.process o).1 = some r) :
    r.connection = o.transition.connection ∧ r.phase = o.transition.phase ∧ r.hash = o.hash := by
  have hf := p.fates o
  generalize p.process o = x at hf hr
  cases hf with
  | duplicate | openDropped | closeSuppressed | orphanDropped => cases hr
  | openKept | closePaired | orphanKept =>
    obtain rfl := Option.some.inj hr
    exact ⟨rfl, rfl, rfl⟩

/-- The record of an OPEN has the fresh identifier. -/
theorem id_of_mem_process_opened {r : Record} (hphase : o.transition.phase = .opened)
    (hr : (p.process o).1 = some r) : r.id = o.fresh := by
  have hf := p.fates o
  generalize p.process o = x at hf hr
  cases hf with
  | duplicate | openDropped | closeSuppressed | orphanDropped => cases hr
  | openKept =>
    obtain rfl := Option.some.inj hr
    rfl
  | closePaired _ hphase' | orphanKept hphase' => simp [hphase] at hphase'

/-- The CLOSE of a remembered connection becomes a record unless its OPEN was left out, and has the
identifier of the OPEN. -/
theorem process_closed_of_remembered {s : OpenConnection} (hphase : o.transition.phase = .closed)
    (hs : p.correlator.remembered o.hash = some s) :
    (p.process o).1.isNone = s.suppressed ∧ ∀ r, (p.process o).1 = some r → r.id = s.id := by
  have hf := p.fates o
  generalize p.process o = x at hf ⊢
  cases hf with
  | duplicate hphase' | openKept hphase' | openDropped _ hphase' => simp [hphase] at hphase'
  | closeSuppressed s' _ hs' hsup =>
    obtain rfl := Option.some.inj (hs.symm.trans hs')
    exact ⟨hsup.symm, fun r hr => by cases hr⟩
  | closePaired s' _ hs' hsup =>
    obtain rfl := Option.some.inj (hs.symm.trans hs')
    refine ⟨hsup.symm, fun r hr => ?_⟩
    obtain rfl := Option.some.inj hr
    rfl
  | orphanKept _ hs' | orphanDropped _ _ hs' => simp [hs] at hs'

/-- Only repetitions count as such. -/
theorem duplicates_process
    (hdup : o.transition.phase = .opened → p.correlator.isDuplicate o.hash o.now = false) :
    (p.process o).2.counters.duplicates = p.counters.duplicates := by
  have hf := p.fates o
  generalize p.process o = x at hf ⊢
  cases hf with
  | duplicate hphase hdup' => simp [hdup hphase] at hdup'
  | openKept | closePaired | orphanKept | closeSuppressed => rfl
  | openDropped reason | orphanDropped reason => cases reason <;> rfl

/-- What is counted as emitted are the records. -/
theorem emitted_process (p : Pipeline) (o : Observation) :
    (p.process o).2.counters.emitted = p.counters.emitted + (p.process o).1.toList.length := by
  have hf := p.fates o
  generalize p.process o = x at hf ⊢
  cases hf with
  | duplicate | openKept | closePaired | orphanKept | closeSuppressed => rfl
  | openDropped reason | orphanDropped reason => cases reason <;> rfl

@[simp] theorem filter_process (p : Pipeline) (o : Observation) :
    (p.process o).2.filter = p.filter := by
  have hf := p.fates o
  generalize p.process o = x at hf ⊢
  cases hf <;> rfl

@[simp] theorem filter_after (p : Pipeline) (os : List Observation) :
    (p.after os).filter = p.filter := by
  induction os generalizing p with
  | nil => rfl
  | cons o os ih => rw [after_cons, ih, filter_process]

/-- The correlator behind an observation is the one that correlated it, with a mark on an OPEN that
was left out. -/
theorem correlator_process (p : Pipeline) (o : Observation) :
    (p.process o).2.correlator = (p.correlator.correlate o).2 ∨
      (p.process o).2.correlator = (p.correlator.correlate o).2.markSuppressed o.hash := by
  have hf := p.fates o
  generalize p.process o = x at hf ⊢
  cases hf with
  | openDropped => exact .inr rfl
  | duplicate | openKept | closeSuppressed | closePaired | orphanKept | orphanDropped =>
    exact .inl rfl

theorem valid_process (hv : p.correlator.opened.Valid) (o : Observation) :
    (p.process o).2.correlator.opened.Valid ∧
      (p.process o).2.correlator.opened.capacity = p.correlator.opened.capacity := by
  obtain ⟨hvalid, hcap⟩ := Correlator.valid_correlate hv o
  rcases p.correlator_process o with hc | hc
  · rw [hc]; exact ⟨hvalid, hcap⟩
  · rw [hc, Correlator.capacity_markSuppressed hvalid]
    exact ⟨Correlator.valid_markSuppressed hvalid _, hcap⟩

theorem valid_after (hv : p.correlator.opened.Valid) (os : List Observation) :
    (p.after os).correlator.opened.Valid ∧
      (p.after os).correlator.opened.capacity = p.correlator.opened.capacity := by
  induction os generalizing p with
  | nil => exact ⟨hv, rfl⟩
  | cons o os ih =>
    obtain ⟨hv', hcap⟩ := valid_process hv o
    rw [after_cons, ← hcap]
    exact ih hv'

/-- A repetition changes nothing of what is remembered. -/
theorem correlator_process_of_duplicateOpen {k : ConnectionHash}
    (hd : (p.correlator.correlate o).1 = .duplicateOpen k) :
    (p.process o).2.correlator = p.correlator := by
  have heq := (Correlator.of_fst_correlate_eq_duplicateOpen hd).2
  unfold process
  rcases hr : p.correlator.correlate o with ⟨r, c⟩
  rw [hr] at hd heq
  obtain rfl : r = .duplicateOpen k := hd
  exact heq

/-- Under the hash of another connection, what is remembered changes as in the correlator. -/
theorem remembered_process_of_ne (hne : h ≠ o.hash) :
    (p.process o).2.correlator.remembered h = (p.correlator.correlate o).2.remembered h := by
  rcases p.correlator_process o with hc | hc
  · rw [hc]
  · rw [hc, Correlator.remembered_markSuppressed, if_neg hne]

/-- An observation that makes nothing be forgotten changes nothing under other hashes. -/
theorem remembered_process_of_keep (hv : p.correlator.opened.Valid) (hne : h ≠ o.hash)
    (hkeep : p.correlator.forgotten o = none) :
    (p.process o).2.correlator.remembered h = p.correlator.remembered h := by
  rw [remembered_process_of_ne hne, Correlator.remembered_correlate_of_ne hv hne]
  simp [hkeep]

/-- An OPEN that is no repetition is remembered with a mark that says whether it was left out. -/
theorem remembered_process_opened (hv : p.correlator.opened.Valid)
    (hphase : o.transition.phase = .opened)
    (hdup : p.correlator.isDuplicate o.hash o.now = false) :
    (p.process o).2.correlator.remembered o.hash =
      some ⟨o.fresh, o.now, (p.process o).1.isNone⟩ := by
  have hopen := Correlator.remembered_correlate_opened hv hphase hdup
  have hf := p.fates o
  generalize p.process o = x at hf ⊢
  cases hf with
  | duplicate _ hdup' => simp [hdup] at hdup'
  | openKept => exact hopen
  | openDropped =>
    rw [Correlator.remembered_markSuppressed, if_pos rfl, hopen]
    rfl
  | closeSuppressed _ hphase' | closePaired _ hphase' | orphanKept hphase'
  | orphanDropped _ hphase' => simp [hphase] at hphase'

/-- After a CLOSE nothing is remembered of its connection. -/
theorem remembered_process_closed (hphase : o.transition.phase = .closed) :
    (p.process o).2.correlator.remembered o.hash = none := by
  have hclosed := Correlator.remembered_correlate_closed (c := p.correlator) hphase
  rcases p.correlator_process o with hc | hc
  · rw [hc, hclosed]
  · rw [hc, Correlator.remembered_markSuppressed, if_pos rfl, hclosed]
    rfl

end Process

end FlowAudit.Pipeline
