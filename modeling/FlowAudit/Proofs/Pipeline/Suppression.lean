import FlowAudit.Proofs.Filter
import FlowAudit.Proofs.Pipeline.Trace

/-!
# The CLOSE of a connection whose OPEN was left out

Two things keep such a CLOSE from becoming a record. While the connection is remembered, so is that
its OPEN was left out. When it was forgotten to make room, the CLOSE goes through the filter by
itself, without a process: whatever rule left the OPEN out leaves the CLOSE out as well, unless it
was the one that knows the agent by its process (`Filter.eq_selfTraffic_of_keep`).

Hence a CLOSE that becomes a record although its OPEN was left out belongs to a connection of the
agent's own process, which was forgotten in between.
-/

namespace FlowAudit

/-- A rule that leaves an OPEN out but not its CLOSE is the one that goes by the agent's process. -/
theorem Filter.eq_selfTraffic_of_keep {f : Filter} {e e' : Event} {reason : DropReason}
    (hconn : e'.connection = e.connection) (hnone : e'.resolution.attribution = none)
    (hdrop : f.verdict e = .drop reason) (hkeep : f.verdict e' = .keep) :
    reason = .selfTraffic ∧ ∃ a, e.resolution.attribution = some a ∧ a.pid = f.agentPid := by
  have hnot := not_leavesOut_of_keep hkeep
  obtain ⟨huses, happlies⟩ := (verdict_eq_drop_iff.mp hdrop).1
  cases happlies with
  | agent ha hpid => exact ⟨rfl, _, ha, hpid⟩
  | nonProcess _ hplace =>
    rw [← hconn] at hplace
    exact absurd ⟨huses, .nonProcess hnone hplace⟩ (hnot .nonProcess)
  | dns hport =>
    rw [← hconn] at hport
    exact absurd ⟨huses, .dns hport⟩ (hnot .dns)
  | endpoint _ hplace haddress hport =>
    rw [← hconn] at haddress hport
    exact absurd ⟨huses, .endpoint hnone hplace haddress hport⟩ (hnot .selfTraffic)

namespace Pipeline

open Correlator (Observation)

variable {p : Pipeline} {o : Observation} {t : Connection}

/-! ### One observation -/

/-- An OPEN that a rule leaves out is remembered with a mark. -/
theorem remembered_process_of_drop {e : Event} {reason : DropReason}
    (hv : p.correlator.opened.Valid) (hphase : o.transition.phase = .opened)
    (he : (p.correlator.correlate o).1 = .event e) (hdrop : p.filter.verdict e = .drop reason) :
    e = o.event o.fresh ∧
      (p.process o).2.correlator.remembered o.hash = some ⟨o.fresh, o.now, true⟩ := by
  have hc := p.correlator.correlates o
  generalize p.correlator.correlate o = x at hc he
  cases hc with
  | duplicate | suppressed | paired => cases he
  | orphan hphase' => simp [hphase] at hphase'
  | opened _ hdup =>
    obtain rfl := Correlated.event.inj he
    have hnone : (p.process o).1 = none := by
      have hf := p.fates o
      generalize p.process o = x at hf ⊢
      cases hf with
      | openKept _ _ hkeep => simp [hdrop] at hkeep
      | duplicate | openDropped | closeSuppressed | orphanDropped => rfl
      | closePaired _ hphase' | orphanKept hphase' => simp [hphase] at hphase'
    exact ⟨rfl, by rw [remembered_process_opened hv hphase hdup, hnone]; rfl⟩

/-- A CLOSE becomes a record if its OPEN did, or if nothing is remembered of it and no rule leaves
it out. -/
theorem isSome_process_closed_iff (hphase : o.transition.phase = .closed) :
    (p.process o).1.isSome ↔
      (∃ s, p.correlator.remembered o.hash = some s ∧ s.suppressed = false) ∨
        p.correlator.remembered o.hash = none ∧ p.filter.verdict (o.event o.fresh) = .keep := by
  have hf := p.fates o
  generalize p.process o = x at hf ⊢
  cases hf with
  | duplicate hphase' | openKept hphase' | openDropped _ hphase' => simp [hphase] at hphase'
  | closeSuppressed s _ hs hsup => simp [hs, hsup]
  | closePaired s _ hs hsup => simp [hs, hsup]
  | orphanKept _ hs hverdict => simp [hs, hverdict]
  | orphanDropped _ _ hs hverdict => simp [hs, hverdict]

/-! ### Between the OPEN and the CLOSE -/

/-- A connection that is not remembered stays so while its OPENs are repetitions. -/
theorem remembered_after_eq_none {os : List Observation} (hv : p.correlator.opened.Valid)
    (hnone : p.correlator.remembered (.of t) = none)
    (hhash : ∀ o ∈ os, o.hash = .of t → o.transition.connection = t)
    (hdup : ∀ x ∈ p.trace os, x.2.transition.connection = t →
      ∃ h, (x.1.correlator.correlate x.2).1 = .duplicateOpen h) :
    (p.after os).correlator.remembered (.of t) = none := by
  induction os generalizing p with
  | nil => exact hnone
  | cons o os ih =>
    simp only [trace_cons, List.forall_mem_cons] at hdup hhash
    have hne : ConnectionHash.of t ≠ o.hash := by
      intro heq
      obtain ⟨h, hh⟩ := hdup.1 (hhash.1 heq.symm)
      have hsome := (Correlator.of_fst_correlate_eq_duplicateOpen hh).1
      rw [← heq, hnone] at hsome
      cases hsome
    refine ih (valid_process hv o).1 ?_ hhash.2 hdup.2
    rw [remembered_process_of_ne hne, Correlator.remembered_correlate_of_ne hv hne, hnone]
    intro s hs
    have hsome := (Correlator.remembered_of_forgotten hv hs).2.1
    rw [hnone] at hsome
    cases hsome

/-- A remembered connection stays as it is while its OPENs are repetitions, unless it is forgotten
to make room. -/
theorem remembered_after_or_forgotten {os : List Observation} {s : OpenConnection}
    (hv : p.correlator.opened.Valid) (hs : p.correlator.remembered (.of t) = some s)
    (hhash : ∀ o ∈ os, o.hash = .of t → o.transition.connection = t)
    (hdup : ∀ x ∈ p.trace os, x.2.transition.connection = t →
      ∃ h, (x.1.correlator.correlate x.2).1 = .duplicateOpen h) :
    (p.after os).correlator.remembered (.of t) = some s ∨
      (p.after os).correlator.remembered (.of t) = none ∧
        ∃ x ∈ p.trace os, ∃ s', x.1.correlator.forgotten x.2 = some (.of t, s') := by
  induction os generalizing p with
  | nil => exact .inl hs
  | cons o os ih =>
    simp only [trace_cons, after_cons, List.forall_mem_cons, List.exists_mem_cons_iff]
      at hdup hhash ⊢
    have hv' := (valid_process hv o).1
    by_cases hconn : o.transition.connection = t
    · obtain ⟨h, hh⟩ := hdup.1 hconn
      have hkeep : (p.process o).2.correlator.remembered (.of t) = some s := by
        rw [correlator_process_of_duplicateOpen hh, hs]
      rcases ih hv' hkeep hhash.2 hdup.2 with hend | ⟨hend, hforgot⟩
      · exact .inl hend
      · exact .inr ⟨hend, .inr hforgot⟩
    · have hne : ConnectionHash.of t ≠ o.hash := fun heq => hconn (hhash.1 heq.symm)
      by_cases hforgot : ∃ s', p.correlator.forgotten o = some (.of t, s')
      · obtain ⟨s', hs'⟩ := hforgot
        have hgone : (p.process o).2.correlator.remembered (.of t) = none := by
          rw [remembered_process_of_ne hne, (Correlator.remembered_of_forgotten hv hs').2.2]
        exact .inr ⟨remembered_after_eq_none hv' hgone hhash.2 hdup.2, .inl ⟨s', hs'⟩⟩
      · have hkeep : (p.process o).2.correlator.remembered (.of t) = some s := by
          rw [remembered_process_of_ne hne, Correlator.remembered_correlate_of_ne hv hne, hs]
          exact fun s' hs' => hforgot ⟨s', hs'⟩
        rcases ih hv' hkeep hhash.2 hdup.2 with hend | ⟨hend, hforgot⟩
        · exact .inl hend
        · exact .inr ⟨hend, .inr hforgot⟩

/-- A CLOSE becomes a record although the last OPEN of its connection that was no repetition was
left out, with no CLOSE in between, only if the OPEN was left out as traffic of the agent's own
process and the connection was forgotten to make room before the CLOSE. So the CLOSE of an OPEN that
was left out by another rule, or without a process, or that is still remembered never becomes a
record. -/
theorem forgotten_of_isSome_close (agent : Uuid) (settings : CorrelatorSettings) (f : Filter)
    (os : List Observation) {front mid back : List (Pipeline × Observation)} {q q' : Pipeline}
    {o o' : Observation} {reason : DropReason}
    (hhash : ∀ x ∈ os, ∀ y ∈ os, x.hash = y.hash →
      x.transition.connection = y.transition.connection)
    (htrace : (Pipeline.new agent settings f).trace os =
      front ++ (q, o) :: (mid ++ (q', o') :: back))
    (hopen : o.transition = ⟨.opened, t⟩) (hclose : o'.transition = ⟨.closed, t⟩)
    (hdrop : ∃ e, (q.correlator.correlate o).1 = .event e ∧ f.verdict e = .drop reason)
    (hdup : ∀ x ∈ mid, x.2.transition.connection = t →
      ∃ h, (x.1.correlator.correlate x.2).1 = .duplicateOpen h)
    (hsome : (q'.process o').1.isSome) :
    reason = .selfTraffic ∧ (∃ a, o.resolution.attribution = some a ∧ a.pid = f.agentPid) ∧
      q'.correlator.remembered (.of t) = none ∧
      ∃ x ∈ mid, ∃ s, x.1.correlator.forgotten x.2 = some (.of t, s) := by
  obtain ⟨os₁, os₂, rfl, -, hrun⟩ := trace_eq_append htrace
  obtain ⟨os₃, rfl, rfl, hrun'⟩ := trace_eq_cons hrun
  obtain ⟨os₄, os₅, rfl, rfl, hend⟩ := trace_eq_append hrun'
  obtain ⟨os₆, rfl, rfl, -⟩ := trace_eq_cons hend
  set q := (Pipeline.new agent settings f).after os₁ with hq
  have hv : q.correlator.opened.Valid := (valid_after (Correlator.valid_new settings) os₁).1
  have hf : q.filter = f := by rw [hq, filter_after]; rfl
  obtain ⟨e, he, hverdict⟩ := hdrop
  -- the OPEN is remembered with its mark
  have ho := Observation.hash_eq hopen
  have ho' := Observation.hash_eq hclose
  have hdropped : q.filter.verdict e = .drop reason := by rw [hf, hverdict]
  obtain ⟨rfl, hmark⟩ := remembered_process_of_drop hv (by rw [hopen]) he hdropped
  rw [ho] at hmark
  -- and stays so through the repetitions, or is forgotten
  have hhash' : ∀ x ∈ os₄, x.hash = .of t → x.transition.connection = t := by
    intro x hx heq
    have h := hhash x (by simp [hx]) o (by simp) (by rw [heq, ho])
    rwa [hopen] at h
  have hcases := (isSome_process_closed_iff (by rw [hclose])).mp hsome
  rw [ho', filter_after, filter_process, hf] at hcases
  rcases remembered_after_or_forgotten (valid_process hv o).1 hmark hhash' hdup with
    hkept | ⟨hgone, hforgot⟩
  · rw [hkept] at hcases
    rcases hcases with ⟨s, hs, hsup⟩ | ⟨hnone, -⟩
    · obtain rfl := Option.some.inj hs
      cases hsup
    · cases hnone
  · rw [hgone] at hcases
    rcases hcases with ⟨s, hs, -⟩ | ⟨-, hkeep⟩
    · cases hs
    · have hconn : (o'.event o'.fresh).connection = (o.event o.fresh).connection := by
        simp [Observation.event, hopen, hclose]
      have hnone : (o'.event o'.fresh).resolution.attribution = none := by
        simp [Observation.event, hclose, Resolution.unresolved]
      obtain ⟨hreason, a, ha, hpid⟩ := Filter.eq_selfTraffic_of_keep hconn hnone hverdict hkeep
      have hres : (o.event o.fresh).resolution = o.resolution := by
        simp [Observation.event, hopen]
      exact ⟨hreason, ⟨a, by rw [← hres, ha], hpid⟩, hgone, hforgot⟩

/-! ### An agent that forgets a connection of its own -/

/-- With room for one connection only, no second one is remembered. -/
theorem remembered_eq_none_of_capacity {c : Correlator} {h k : ConnectionHash}
    (hv : c.opened.Valid) (hcap : c.opened.capacity = 1) (hsome : (c.remembered h).isSome)
    (hne : k ≠ h) : c.remembered k = none := by
  by_contra hk
  have hkeys : ∀ x ∈ [k, h], (c.opened.get? x).isSome := by
    intro x hx
    rcases List.mem_pair.mp hx with rfl | rfl
    · exact Option.isSome_iff_ne_none.mpr hk
    · exact hsome
  have htwo := hv.length_le_size (by simpa using hne) hkeys
  have hone := hv.size_le
  rw [hcap] at hone
  exact absurd (Nat.le_trans htwo hone) (Nat.not_succ_le_self 1)

/-- A connection to one place from the given port. -/
def connectionFrom (port : Port) : Connection :=
  ⟨.tcp, .v4 ⟨10, 0, 0, 1⟩, port, .v4 ⟨1, 1, 1, 1⟩, 443⟩

/-- What is observed of a connection of process 7 from the given port. -/
def observedFrom (port : Port) (phase : Phase) : Observation where
  transition := ⟨phase, connectionFrom port⟩
  resolution := ⟨some 1, some ⟨7, "agent", [], 0, none⟩⟩
  fresh := ⟨0, port.toUInt64⟩
  timestamp := default
  now := 0

/-- A pipeline of process 7 with room for one connection. -/
def crowded : Pipeline :=
  .new .nil { capacity := 1 } ⟨{}, 7, []⟩

theorem of_connectionFrom_ne :
    ConnectionHash.of (connectionFrom 1) ≠ ConnectionHash.of (connectionFrom 2) := by
  decide +kernel

/-- An OPEN that is not remembered is remembered afterwards. -/
theorem isSome_remembered_opened (port : Port) (hv : p.correlator.opened.Valid)
    (hnone : p.correlator.remembered (.of (connectionFrom port)) = none) :
    ((p.after [observedFrom port .opened]).correlator.remembered
      (.of (connectionFrom port))).isSome := by
  have hdup := Correlator.isDuplicate_eq_false_of_remembered hnone 0
  exact Option.isSome_of_mem
    (remembered_process_opened (o := observedFrom port .opened) hv rfl hdup)

/-- The connection from port 1 is remembered, and then forgotten for the one from port 2. -/
theorem remembered_crowded :
    ((crowded.after [observedFrom 1 .opened]).correlator.remembered
        (.of (connectionFrom 1))).isSome ∧
      ((crowded.after [observedFrom 1 .opened]).after
        [observedFrom 2 .opened]).correlator.remembered (.of (connectionFrom 1)) = none := by
  have hnew : crowded.correlator.opened.Valid := Correlator.valid_new { capacity := 1 }
  obtain ⟨hv, hcap⟩ := valid_after hnew [observedFrom 1 .opened]
  obtain ⟨hv', hcap'⟩ := valid_after hv [observedFrom 2 .opened]
  have hfirst := isSome_remembered_opened 1 hnew (Correlator.remembered_new _ _)
  have hnone := remembered_eq_none_of_capacity hv hcap hfirst of_connectionFrom_ne.symm
  have hsecond := isSome_remembered_opened 2 hv hnone
  refine ⟨hfirst, ?_⟩
  exact remembered_eq_none_of_capacity hv' (hcap'.trans hcap) hsecond of_connectionFrom_ne

/-- The agent's OPEN from port 1 is left out and forgotten for its OPEN from port 2; its CLOSE then
becomes a record. -/
theorem isSome_close_of_crowded :
    (((crowded.after [observedFrom 1 .opened]).after [observedFrom 2 .opened]).process
        (observedFrom 1 .closed)).1.isSome ∧
      ∃ s, (crowded.after [observedFrom 1 .opened]).correlator.forgotten (observedFrom 2 .opened) =
        some (.of (connectionFrom 1), s) := by
  have hkeep : crowded.filter.verdict
      ((observedFrom 1 .closed).event (observedFrom 1 .closed).fresh) = .keep := by decide
  have hsome : (((crowded.after [observedFrom 1 .opened]).after [observedFrom 2 .opened]).process
      (observedFrom 1 .closed)).1.isSome := by
    rw [isSome_process_closed_iff rfl, filter_after, filter_after]
    exact .inr ⟨remembered_crowded.2, hkeep⟩
  refine ⟨hsome, ?_⟩
  have hdup : crowded.correlator.isDuplicate (observedFrom 1 .opened).hash 0 = false :=
    Correlator.isDuplicate_eq_false_of_remembered (Correlator.remembered_new _ _) 0
  have hdrop : ∃ e, (crowded.correlator.correlate (observedFrom 1 .opened)).1 = .event e ∧
      crowded.filter.verdict e = .drop .selfTraffic :=
    ⟨_, Correlator.fst_correlate_opened rfl hdup, by decide⟩
  have hmid : ∀ x ∈ [(crowded.after [observedFrom 1 .opened], observedFrom 2 .opened)],
      x.2.transition.connection = connectionFrom 1 →
        ∃ h, (x.1.correlator.correlate x.2).1 = .duplicateOpen h := by
    intro x hx hconn
    obtain rfl := List.mem_singleton.mp hx
    exact absurd hconn (by decide)
  have htrace : crowded.trace
        [observedFrom 1 .opened, observedFrom 2 .opened, observedFrom 1 .closed] =
      [] ++ (crowded, observedFrom 1 .opened) ::
        ([(crowded.after [observedFrom 1 .opened], observedFrom 2 .opened)] ++
          ((crowded.after [observedFrom 1 .opened]).after [observedFrom 2 .opened],
            observedFrom 1 .closed) :: []) := by
    simp only [trace_cons, trace_nil, after_cons, after_nil, List.nil_append, List.cons_append]
  obtain ⟨-, -, -, x, hx, hs⟩ := forgotten_of_isSome_close .nil { capacity := 1 } ⟨{}, 7, []⟩
    [observedFrom 1 .opened, observedFrom 2 .opened, observedFrom 1 .closed]
    (by decide +kernel) htrace rfl rfl hdrop hmid hsome
  obtain rfl := List.mem_singleton.mp hx
  exact hs

end Pipeline

end FlowAudit
