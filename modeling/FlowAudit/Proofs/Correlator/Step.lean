import FlowAudit.Correlator
import FlowAudit.Proofs.Bounded.View

/-!
# What one observation does to the correlator

`Correlator.remembered` is what the correlator knows under a hash. An observation changes it under
its own hash (`correlates` lists what can happen), and under one other hash at most: that of the
connection which is forgotten to make room (`forgotten`, `remembered_of_forgotten`). Under every
other hash all stays as it is (`remembered_correlate_of_ne`).
-/

namespace FlowAudit.Correlator

/-- The hash under which an observed connection is remembered. -/
def Observation.hash (o : Observation) : ConnectionHash :=
  .of o.transition.connection

theorem Observation.hash_eq {o : Observation} {phase : Phase} {c : Connection}
    (ho : o.transition = ⟨phase, c⟩) : o.hash = .of c := by
  rw [hash, ho]

/-- What is remembered under a hash. -/
def remembered (c : Correlator) (h : ConnectionHash) : Option OpenConnection :=
  c.opened.get? h

/-- What is forgotten to make room for an observed connection. -/
def forgotten (c : Correlator) (o : Observation) : Option (ConnectionHash × OpenConnection) :=
  match o.transition.phase with
  | .opened =>
    if c.isDuplicate o.hash o.now then none
    else (c.opened.insert o.hash ⟨o.fresh, o.now, false⟩).1
  | .closed => none

/-! ### The cases of `correlate` -/

/-- What an observation turns out to be, and the correlator behind it. -/
inductive Correlates (c : Correlator) (o : Observation) : Correlated × Correlator → Prop
  /-- An OPEN that repeats a remembered one changes nothing. -/
  | duplicate (hphase : o.transition.phase = .opened) (hdup : c.isDuplicate o.hash o.now = true) :
    Correlates c o (.duplicateOpen o.hash, c)
  /-- Every other OPEN is remembered. -/
  | opened (hphase : o.transition.phase = .opened) (hdup : c.isDuplicate o.hash o.now = false) :
    Correlates c o (.event (o.event o.fresh),
      { c with opened := (c.opened.insert o.hash ⟨o.fresh, o.now, false⟩).2 })
  /-- The CLOSE of a connection whose OPEN was left out. -/
  | suppressed (s : OpenConnection) (hphase : o.transition.phase = .closed)
    (hs : c.remembered o.hash = some s) (hsup : s.suppressed = true) :
    Correlates c o (.suppressedClose o.hash, { c with opened := (c.opened.remove o.hash).2 })
  /-- The CLOSE of any other remembered connection. -/
  | paired (s : OpenConnection) (hphase : o.transition.phase = .closed)
    (hs : c.remembered o.hash = some s) (hsup : s.suppressed = false) :
    Correlates c o (.pairedClose (o.event s.id),
      { c with opened := (c.opened.remove o.hash).2 })
  /-- The CLOSE of a connection that is not remembered. -/
  | orphan (hphase : o.transition.phase = .closed) (hs : c.remembered o.hash = none) :
    Correlates c o (.event (o.event o.fresh), { c with opened := (c.opened.remove o.hash).2 })

theorem correlates (c : Correlator) (o : Observation) : Correlates c o (c.correlate o) := by
  unfold correlate
  cases hphase : o.transition.phase with
  | opened =>
    by_cases hdup : c.isDuplicate o.hash o.now = true
    · have h := Correlates.duplicate hphase hdup
      simpa only [← Observation.hash.eq_1, hdup, if_true] using h
    · have hdup' : c.isDuplicate o.hash o.now = false := by simpa using hdup
      have h := Correlates.opened hphase hdup'
      simpa only [← Observation.hash.eq_1, hdup', if_false, Bool.false_eq_true] using h
  | closed =>
    simp only [← Observation.hash.eq_1]
    have hfst : (c.opened.remove o.hash).1 = c.remembered o.hash := Bounded.fst_remove _ _
    rcases hr : c.opened.remove o.hash with ⟨found, opened⟩
    rw [hr] at hfst
    cases found with
    | none =>
      have h := Correlates.orphan hphase hfst.symm
      simpa only [hr] using h
    | some s =>
      cases hsup : s.suppressed with
      | true =>
        have h := Correlates.suppressed s hphase hfst.symm hsup
        simpa only [hr, hsup, if_true] using h
      | false =>
        have h := Correlates.paired s hphase hfst.symm hsup
        simpa only [hr, hsup, if_false, Bool.false_eq_true] using h

theorem forgotten_of_opened {c : Correlator} {o : Observation}
    (hphase : o.transition.phase = .opened) (hdup : c.isDuplicate o.hash o.now = false) :
    c.forgotten o = (c.opened.insert o.hash ⟨o.fresh, o.now, false⟩).1 := by
  simp [forgotten, hphase, hdup]

theorem forgotten_closed {c : Correlator} {o : Observation}
    (hphase : o.transition.phase = .closed) :
    c.forgotten o = none := by
  simp [forgotten, hphase]

/-- What is remembered is changed by `markSuppressed` under one hash only. -/
theorem remembered_markSuppressed (c : Correlator) (h k : ConnectionHash) :
    (c.markSuppressed h).remembered k =
      if k = h then (c.remembered k).map fun s => { s with suppressed := true }
      else c.remembered k := by
  simpa [remembered, markSuppressed] using
    Bounded.get?_modify c.opened h k fun s => { s with suppressed := true }

/-! ### What an observation keeps -/

section Valid

variable {c : Correlator} {o : Observation} {h : ConnectionHash}

theorem valid_new (settings : CorrelatorSettings) : (new settings).opened.Valid :=
  Bounded.valid_empty _

theorem remembered_new (settings : CorrelatorSettings) (h : ConnectionHash) :
    (new settings).remembered h = none :=
  Bounded.get?_empty _ _

theorem valid_markSuppressed (hv : c.opened.Valid) (h : ConnectionHash) :
    (c.markSuppressed h).opened.Valid :=
  (hv.modify h fun s => { s with suppressed := true }).2.2

theorem capacity_markSuppressed (hv : c.opened.Valid) (h : ConnectionHash) :
    (c.markSuppressed h).opened.capacity = c.opened.capacity :=
  (hv.modify h fun s => { s with suppressed := true }).2.1

theorem valid_correlate (hv : c.opened.Valid) (o : Observation) :
    (c.correlate o).2.opened.Valid ∧ (c.correlate o).2.opened.capacity = c.opened.capacity := by
  have hc := c.correlates o
  generalize c.correlate o = x at hc ⊢
  cases hc with
  | duplicate => exact ⟨hv, rfl⟩
  | opened =>
    obtain ⟨-, -, hcap, hvalid⟩ := hv.insert o.hash ⟨o.fresh, o.now, false⟩
    exact ⟨hvalid, hcap⟩
  | suppressed | paired | orphan =>
    obtain ⟨-, hcap, hvalid⟩ := hv.remove o.hash
    exact ⟨hvalid, hcap⟩

/-- Under the hash of another connection that is not forgotten, all stays as it is. -/
theorem remembered_correlate_of_ne (hv : c.opened.Valid) (hne : h ≠ o.hash)
    (hkeep : ∀ s, c.forgotten o ≠ some (h, s)) :
    (c.correlate o).2.remembered h = c.remembered h := by
  have hc := c.correlates o
  generalize c.correlate o = x at hc ⊢
  cases hc with
  | duplicate => rfl
  | opened hphase hdup =>
    refine hv.get?_insert_of_ne hne fun s => ?_
    rw [← forgotten_of_opened hphase hdup]
    exact hkeep s
  | suppressed | paired | orphan =>
    have hget := Bounded.get?_remove c.opened o.hash h
    rwa [if_neg (by simpa using hne)] at hget

/-- An OPEN that is no repetition is an event under a fresh identifier. -/
theorem fst_correlate_opened (hphase : o.transition.phase = .opened)
    (hdup : c.isDuplicate o.hash o.now = false) :
    (c.correlate o).1 = .event (o.event o.fresh) := by
  have hc := c.correlates o
  generalize c.correlate o = x at hc ⊢
  cases hc with
  | duplicate _ hdup' => simp [hdup] at hdup'
  | opened => rfl
  | suppressed _ hphase' | paired _ hphase' | orphan hphase' => simp [hphase] at hphase'

/-- An OPEN that is no repetition is remembered. -/
theorem remembered_correlate_opened (hv : c.opened.Valid) (hphase : o.transition.phase = .opened)
    (hdup : c.isDuplicate o.hash o.now = false) :
    (c.correlate o).2.remembered o.hash = some ⟨o.fresh, o.now, false⟩ := by
  have hc := c.correlates o
  generalize c.correlate o = x at hc ⊢
  cases hc with
  | duplicate _ hdup' => simp [hdup] at hdup'
  | opened => exact hv.get?_insert_self _ _
  | suppressed _ hphase' | paired _ hphase' | orphan hphase' => simp [hphase] at hphase'

/-- After a CLOSE nothing is remembered of its connection. -/
theorem remembered_correlate_closed (hphase : o.transition.phase = .closed) :
    (c.correlate o).2.remembered o.hash = none := by
  have hc := c.correlates o
  generalize c.correlate o = x at hc ⊢
  cases hc with
  | duplicate hphase' | opened hphase' => simp [hphase] at hphase'
  | suppressed | paired | orphan =>
    have hget := Bounded.get?_remove c.opened o.hash o.hash
    rwa [if_pos (by simp)] at hget

/-- What is forgotten was remembered under the hash of another connection. -/
theorem remembered_of_forgotten (hv : c.opened.Valid) {s : OpenConnection}
    (hf : c.forgotten o = some (h, s)) :
    h ≠ o.hash ∧ c.remembered h = some s ∧ (c.correlate o).2.remembered h = none := by
  have hc := c.correlates o
  generalize c.correlate o = x at hc ⊢
  cases hc with
  | duplicate hphase hdup => simp [forgotten, hphase, hdup] at hf
  | opened hphase hdup =>
    rw [forgotten_of_opened hphase hdup] at hf
    exact hv.get?_of_fst_insert hf
  | suppressed _ hphase | paired _ hphase | orphan hphase => simp [forgotten, hphase] at hf

/-- While there is room nothing is forgotten. -/
theorem forgotten_eq_none_of_room (hv : c.opened.Valid)
    (hroom : (c.remembered o.hash).isSome ∨ c.opened.size < c.opened.capacity) :
    c.forgotten o = none := by
  unfold forgotten
  cases o.transition.phase with
  | closed => rfl
  | opened =>
    by_cases hdup : c.isDuplicate o.hash o.now = true
    · simp [hdup]
    · simpa [hdup] using hv.fst_insert_eq_none _ hroom

/-- An OPEN repeats one that is remembered and was observed within the duplicate window. -/
theorem isDuplicate_eq_true_iff (c : Correlator) (h : ConnectionHash) (now : Nat) :
    c.isDuplicate h now = true ↔
      ∃ s, c.remembered h = some s ∧ now - s.firstSeen < c.duplicateWindow := by
  unfold isDuplicate remembered
  cases c.opened.get? h <;> simp

/-- An OPEN of a connection that is not remembered is no repetition. -/
theorem isDuplicate_eq_false_of_remembered (hr : c.remembered h = none) (now : Nat) :
    c.isDuplicate h now = false := by
  unfold remembered at hr
  simp [isDuplicate, hr]

/-- A repetition is one of a remembered OPEN, and changes nothing. -/
theorem of_fst_correlate_eq_duplicateOpen {k : ConnectionHash}
    (hd : (c.correlate o).1 = .duplicateOpen k) :
    (c.remembered o.hash).isSome ∧ (c.correlate o).2 = c := by
  have hc := c.correlates o
  generalize c.correlate o = x at hc hd ⊢
  cases hc with
  | duplicate _ hdup =>
    refine ⟨?_, rfl⟩
    cases hr : c.remembered o.hash with
    | none => simp [isDuplicate_eq_false_of_remembered hr] at hdup
    | some s => rfl
  | opened | suppressed | paired | orphan => cases hd

end Valid

end FlowAudit.Correlator
