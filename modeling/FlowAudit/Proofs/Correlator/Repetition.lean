import FlowAudit.Proofs.Correlator.Pairing

/-!
# OPENs that are repeated

An OPEN that repeats a remembered one leaves the correlator exactly as it was, its clockwork of
stamps included, so a run from which repetitions are struck out goes through the same states and
answers the same (`trace_filter`). The duplicate window is therefore counted from the OPEN that was
accepted, however often it is repeated: accepted OPENs of a connection that is open throughout lie a
window apart (`Recalls.window_le_of_accepts`), and an OPEN that comes within the window, or is dated
back, is a repetition (`Recalls.result_iff_of_tracked`).

`repetitions_of_run` says this of all runs of a new correlator.
-/

namespace FlowAudit.Correlator

/-- The step answers that an OPEN repeats a remembered one. -/
def Step.isRepetition (x : Step) : Bool :=
  match x.result with
  | some (.duplicateOpen _) => true
  | _ => false

/-! ### Runs without repetitions -/

theorem Step.after_eq_of_isRepetition {x : Step} (h : x.isRepetition = true) :
    x.after = x.before := by
  unfold isRepetition at h
  split at h
  · rename_i k hresult
    exact after_eq_of_duplicateOpen hresult
  · cases h

/-- The actions of some of the steps of a run. -/
def actionsOf (keep : Step → Bool) (steps : List Step) : List Action :=
  (steps.filter keep).map Step.action

/-- When steps are struck out of a run that are repetitions, the other steps stay as they are: each
is done to the same correlator, and so is whatever follows. -/
theorem trace_filter {c : Correlator} {actions : List Action} {keep : Step → Bool}
    (hkeep : ∀ x ∈ c.trace actions, keep x = false → x.isRepetition = true) :
    c.trace (actionsOf keep (c.trace actions)) = (c.trace actions).filter keep ∧
      c.after (actionsOf keep (c.trace actions)) = c.after actions := by
  -- induction on the actions, from any correlator
  induction actions generalizing c with
  | nil => exact ⟨rfl, rfl⟩
  | cons a actions ih =>
    rw [trace, List.forall_mem_cons] at hkeep
    obtain ⟨htrace, hafter⟩ := ih hkeep.2
    cases ha : keep ⟨c, a⟩ with
    | true =>
      have hfilter : (c.trace (a :: actions)).filter keep =
          ⟨c, a⟩ :: ((c.act a).2.trace actions).filter keep := by
        rw [trace, List.filter_cons_of_pos ha]
      have hactions : actionsOf keep (c.trace (a :: actions)) =
          a :: actionsOf keep ((c.act a).2.trace actions) := by
        rw [actionsOf, hfilter]
        rfl
      rw [hactions, hfilter]
      exact ⟨congrArg (Step.mk c a :: ·) htrace, hafter⟩
    | false =>
      -- the step that is struck out leaves the correlator as it was
      have hsame : (c.act a).2 = c := Step.after_eq_of_isRepetition (hkeep.1 ha)
      have hfilter : (c.trace (a :: actions)).filter keep = (c.trace actions).filter keep := by
        rw [trace, List.filter_cons_of_neg (by simp [ha]), hsame]
      rw [hsame] at htrace hafter
      have hactions : actionsOf keep (c.trace (a :: actions)) =
          actionsOf keep (c.trace actions) := by
        rw [actionsOf, hfilter]
        rfl
      rw [hactions, hfilter]
      refine ⟨htrace, hafter.trans ?_⟩
      show c.after actions = (c.act a).2.after actions
      rw [hsame]

/-! ### The duplicate window -/

variable {steps : List Step} {x y : Step} {o o' : Observation}

/-- An OPEN of a tracked connection is a repetition just when it comes within the window behind the
OPEN that stands, or is dated before it. -/
theorem Recalls.result_iff_of_tracked (hr : Recalls y.before steps)
    (haction : y.action = .observe o) (hphase : o.transition.phase = .opened)
    (htracked : (y.before.remembered o.hash).isSome) :
    ∃ o' since, Standing o.hash steps o' since ∧
      (y.result = some (.duplicateOpen o.hash) ↔
        0 < y.before.duplicateWindow ∧ o.now < o'.now + y.before.duplicateWindow) := by
  obtain ⟨o', since, hs⟩ := (hr.isSome_iff o.hash).mp htracked
  refine ⟨o', since, hs, ?_⟩
  rw [hr.result_eq_duplicateOpen_iff haction hphase]
  constructor
  · rintro ⟨o'', since', hs', hlt⟩
    obtain ⟨rfl, -⟩ := hs.unique hs'
    omega
  · rintro ⟨hwindow, hlt⟩
    exact ⟨o', since, hs, by omega⟩

/-- An OPEN that is accepted while an earlier one stands comes a window after it. -/
theorem Recalls.window_le_of_accepts (hr : Recalls y.before steps) {since : List Step}
    (hs : Standing o.hash steps o since) (hy : y.Accepts o') (hhash : o'.hash = o.hash) :
    y.before.duplicateWindow ≤ o'.now - o.now := by
  by_contra hnot
  apply hy.result
  rw [hr.result_eq_duplicateOpen_iff hy.action hy.phase, hhash]
  exact ⟨o, since, hs, Nat.lt_of_not_le hnot⟩

/-- From every run of a new correlator repetitions may be struck out, all or some of them: the other
steps meet the same correlators and answer the same, and the run ends with the same correlator. If
an OPEN is accepted, and the next one under its hash as well, and the connection was neither closed
nor forgotten in between, then the second one is observed at least the duplicate window after the
first one. An OPEN under a hash under which a connection is remembered is a repetition just when the
window is not empty and it is observed before the window ends that begins with the OPEN that was
accepted. -/
theorem repetitions_of_run (settings : CorrelatorSettings) (actions : List Action) :
    (∀ keep : Step → Bool,
      (∀ x ∈ (new settings).trace actions, keep x = false → x.isRepetition = true) →
      (new settings).trace (actionsOf keep ((new settings).trace actions)) =
        ((new settings).trace actions).filter keep ∧
      (new settings).after (actionsOf keep ((new settings).trace actions)) =
        (new settings).after actions) ∧
    (∀ front x between y back o o',
      (new settings).trace actions = front ++ x :: (between ++ y :: back) →
      x.Accepts o → y.Accepts o' → o'.hash = o.hash →
      (∀ z ∈ between, ¬ z.Opens o.hash ∧ ¬ z.Closes o.hash ∧ ¬ z.Forgets o.hash) →
      settings.duplicateWindow.toNat ≤ o'.now - o.now) ∧
    (∀ front y back o, (new settings).trace actions = front ++ y :: back →
      y.action = .observe o → o.transition.phase = .opened →
      (y.before.remembered o.hash).isSome →
      ∃ o' since, Standing o.hash front o' since ∧
        (y.result = some (.duplicateOpen o.hash) ↔ 0 < settings.duplicateWindow.toNat ∧
          o.now < o'.now + settings.duplicateWindow.toNat)) := by
  -- what a step meets is what the steps in front of it leave
  have hmet {front back : List Step} {y : Step}
      (hsteps : (new settings).trace actions = front ++ y :: back) :
      Recalls y.before front ∧ y.before.duplicateWindow = settings.duplicateWindow.toNat := by
    obtain ⟨actions₁, -, -, rfl, hbefore, -⟩ := trace_eq_append hsteps
    obtain ⟨hr, -, hwindow⟩ := recalls_after settings actions₁
    rw [hbefore]
    exact ⟨hr, hwindow⟩
  refine ⟨fun keep => trace_filter, ?_, ?_⟩
  · intro front x between y back o o' hsteps hx hy hhash hbetween
    rw [← List.cons_append, ← List.append_assoc] at hsteps
    obtain ⟨hr, hwindow⟩ := hmet hsteps
    have hs : Standing o.hash (front ++ x :: between) o between :=
      ⟨front, x, rfl, hx, rfl, hbetween⟩
    rw [← hwindow]
    exact hr.window_le_of_accepts hs hy hhash
  · intro front y back o hsteps haction hphase htracked
    obtain ⟨hr, hwindow⟩ := hmet hsteps
    rw [← hwindow]
    exact hr.result_iff_of_tracked haction hphase htracked

/-! ### A connection whose OPEN is repeated -/

/-- An OPEN that is observed three times: within the window of two seconds, and after it. -/
def repeated : List Action :=
  [.observe (seen .opened ⟨0, 1⟩ 0), .observe (seen .opened ⟨0, 2⟩ 1500),
    .observe (seen .opened ⟨0, 3⟩ 3000)]

/-- The second OPEN of `repeated` is a repetition. -/
theorem isRepetition_of_repeated :
    Step.isRepetition ⟨(new {}).after (repeated.take 1), .observe (seen .opened ⟨0, 2⟩ 1500)⟩ =
      true := by
  have hfirst : Step.Accepts ⟨new {}, .observe (seen .opened ⟨0, 1⟩ 0)⟩ (seen .opened ⟨0, 1⟩ 0) :=
    Step.accepts_iff.mpr ⟨rfl, rfl, isDuplicate_eq_false_of_remembered (remembered_new _ _) _⟩
  have hs : Standing (seen .opened ⟨0, 2⟩ 1500).hash ((new {}).trace (repeated.take 1))
      (seen .opened ⟨0, 1⟩ 0) [] :=
    ⟨[], _, rfl, hfirst, rfl, List.forall_mem_nil _⟩
  obtain ⟨hr, -, hwindow⟩ := recalls_after {} (repeated.take 1)
  have hr' : Recalls (Step.mk ((new {}).after (repeated.take 1))
      (.observe (seen .opened ⟨0, 2⟩ 1500))).before ((new {}).trace (repeated.take 1)) := hr
  have hresult := (hr'.result_eq_duplicateOpen_iff rfl rfl).mpr
    ⟨_, _, hs, by rw [hwindow]; decide⟩
  rw [Step.isRepetition, hresult]

/-- Without it the correlator ends up the same, so the third OPEN is not measured by it. -/
theorem after_of_repeated :
    (new {}).after [.observe (seen .opened ⟨0, 1⟩ 0), .observe (seen .opened ⟨0, 3⟩ 3000)] =
      (new {}).after repeated := by
  have hrun := (repetitions_of_run {} repeated).1
    fun x => x.action ≠ .observe (seen .opened ⟨0, 2⟩ 1500)
  refine (hrun ?_).2
  intro x hx hstruck
  have haction : x.action = .observe (seen .opened ⟨0, 2⟩ 1500) := by simpa using hstruck
  simp only [repeated, trace, List.mem_cons, List.not_mem_nil, or_false] at hx
  rcases hx with rfl | rfl | rfl
  · exact absurd haction (by decide)
  · exact isRepetition_of_repeated
  · exact absurd haction (by decide)

end FlowAudit.Correlator
