import Mathlib.Data.List.Induction
import FlowAudit.Proofs.Correlator.Step

/-!
# The history of a correlator

A run of a correlator is a sequence of actions, each of which observes a transition or marks an OPEN
as left out; `Correlator.trace` lists the actions with the correlator that meets each of them. An
OPEN stands after a run if it was accepted and has neither been replaced, closed nor forgotten since
(`Standing`).

The correlator remembers exactly the OPENs that stand, with a mark if they were marked since, and
keeps them in the order in which they were accepted. Every action keeps this (`Recalls.act`), so it
holds of every run (`recalls_after`).
-/

namespace FlowAudit.Correlator

/-! ### Runs -/

/-- What is done to a correlator. -/
inductive Action where
  | observe (o : Observation)
  | markSuppressed (h : ConnectionHash)
  deriving DecidableEq, Repr

/-- What an action answers, and the correlator behind it. -/
def act (c : Correlator) : Action → Option Correlated × Correlator
  | .observe o => (some (c.correlate o).1, (c.correlate o).2)
  | .markSuppressed h => (none, c.markSuppressed h)

/-- The correlator after a sequence of actions. -/
def after (c : Correlator) (actions : List Action) : Correlator :=
  actions.foldl (fun c a => (c.act a).2) c

/-- An action, with the correlator that it was done to. -/
structure Step where
  before : Correlator
  action : Action

/-- The actions, each with the correlator that meets it. -/
def trace (c : Correlator) : List Action → List Step
  | [] => []
  | a :: actions => ⟨c, a⟩ :: trace (c.act a).2 actions

theorem after_concat (c : Correlator) (actions : List Action) (a : Action) :
    c.after (actions ++ [a]) = ((c.after actions).act a).2 :=
  List.foldl_concat ..

theorem trace_append (c : Correlator) (actions actions' : List Action) :
    c.trace (actions ++ actions') = c.trace actions ++ (c.after actions).trace actions' := by
  induction actions generalizing c with
  | nil => rfl
  | cons a actions ih =>
    rw [List.cons_append, trace, trace, List.cons_append, ih]
    rfl

theorem trace_concat (c : Correlator) (actions : List Action) (a : Action) :
    c.trace (actions ++ [a]) = c.trace actions ++ [⟨c.after actions, a⟩] :=
  trace_append c actions [a]

/-- The steps in front of one are those of a run that leads to it. -/
theorem trace_eq_append {c : Correlator} {actions : List Action} {front back : List Step} {x : Step}
    (h : c.trace actions = front ++ x :: back) :
    ∃ actions₁ actions₂, actions = actions₁ ++ x.action :: actions₂ ∧
      front = c.trace actions₁ ∧ x.before = c.after actions₁ ∧
      back = (x.before.act x.action).2.trace actions₂ := by
  induction front generalizing c actions with
  | nil =>
    cases actions with
    | nil => simp [trace] at h
    | cons a actions =>
      rw [trace, List.nil_append, List.cons.injEq] at h
      obtain ⟨rfl, rfl⟩ := h
      exact ⟨[], actions, rfl, rfl, rfl, rfl⟩
  | cons y front ih =>
    cases actions with
    | nil => simp [trace] at h
    | cons a actions =>
      rw [trace, List.cons_append, List.cons.injEq] at h
      obtain ⟨rfl, hrest⟩ := h
      obtain ⟨actions₁, actions₂, rfl, rfl, hbefore, hback⟩ := ih hrest
      exact ⟨a :: actions₁, actions₂, rfl, rfl, hbefore, hback⟩

/-! ### What a step does -/

namespace Step

/-- What the step answers. -/
def result (x : Step) : Option Correlated :=
  (x.before.act x.action).1

/-- The correlator behind the step. -/
def after (x : Step) : Correlator :=
  (x.before.act x.action).2

/-- The step accepts an OPEN, which is no repetition. -/
structure Accepts (x : Step) (o : Observation) : Prop where
  action : x.action = .observe o
  phase : o.transition.phase = .opened
  result : x.result ≠ some (.duplicateOpen o.hash)

/-- The step accepts an OPEN under a hash. -/
def Opens (x : Step) (h : ConnectionHash) : Prop :=
  ∃ o, x.Accepts o ∧ o.hash = h

/-- The step observes a CLOSE under a hash. -/
def Closes (x : Step) (h : ConnectionHash) : Prop :=
  ∃ o, x.action = .observe o ∧ o.transition.phase = .closed ∧ o.hash = h

/-- The step makes a connection be forgotten to make room for another one. -/
def Forgets (x : Step) (h : ConnectionHash) : Prop :=
  ∃ o s, x.action = .observe o ∧ x.before.forgotten o = some (h, s)

/-- Whether the step marks the OPEN under a hash as left out. -/
def marks (h : ConnectionHash) (x : Step) : Bool :=
  x.action = .markSuppressed h

variable {x : Step} {o : Observation} {h : ConnectionHash}

theorem accepts_iff : x.Accepts o ↔
    x.action = .observe o ∧ o.transition.phase = .opened ∧
      x.before.isDuplicate o.hash o.now = false := by
  have hresult (ho : x.action = .observe o) : x.result = some (x.before.correlate o).1 := by
    rw [result, ho]
    rfl
  constructor
  · rintro ⟨ho, hphase, hne⟩
    refine ⟨ho, hphase, ?_⟩
    rw [hresult ho] at hne
    have hc := x.before.correlates o
    generalize x.before.correlate o = y at hc hne
    cases hc with
    | duplicate => exact absurd rfl hne
    | opened _ hdup => exact hdup
    | suppressed _ hphase' | paired _ hphase' | orphan hphase' => simp [hphase] at hphase'
  · rintro ⟨ho, hphase, hdup⟩
    refine ⟨ho, hphase, ?_⟩
    rw [hresult ho, fst_correlate_opened hphase hdup]
    simp

/-- Of two OPENs that a step accepts one is the other. -/
theorem Accepts.unique {o' : Observation} (ho : x.Accepts o) (ho' : x.Accepts o') : o = o' :=
  Action.observe.inj (ho.action.symm.trans ho'.action)

/-- An accepted OPEN is remembered without a mark. -/
theorem Accepts.remembered (ho : x.Accepts o) (hv : x.before.opened.Valid) :
    x.after.remembered o.hash = some ⟨o.fresh, o.now, false⟩ := by
  obtain ⟨haction, hphase, hdup⟩ := accepts_iff.mp ho
  rw [after, haction]
  exact remembered_correlate_opened hv hphase hdup

theorem Closes.remembered (hc : x.Closes h) : x.after.remembered h = none := by
  obtain ⟨o, haction, hphase, rfl⟩ := hc
  rw [after, haction]
  exact remembered_correlate_closed hphase

theorem Forgets.remembered (hf : x.Forgets h) (hv : x.before.opened.Valid) :
    x.after.remembered h = none := by
  obtain ⟨o, s, haction, hforgot⟩ := hf
  rw [after, haction]
  exact (remembered_of_forgotten hv hforgot).2.2

/-- What is remembered under a hash stays if the step neither opens, closes nor forgets it; a mark
is noted. -/
theorem remembered_of_not (hv : x.before.opened.Valid) (hopen : ¬ x.Opens h)
    (hclose : ¬ x.Closes h) (hforget : ¬ x.Forgets h) :
    x.after.remembered h =
      (x.before.remembered h).map fun s => { s with suppressed := s.suppressed || x.marks h } := by
  obtain ⟨c, action⟩ := x
  cases action with
  | markSuppressed k =>
    show (c.markSuppressed k).remembered h = _
    rw [remembered_markSuppressed]
    by_cases hk : h = k
    · simp [marks, hk]
    · have hk' : k ≠ h := fun heq => hk heq.symm
      simp [marks, hk, hk']
  | observe o =>
    have hsame : (c.correlate o).2.remembered h = c.remembered h := by
      by_cases hh : h = o.hash
      · -- only a repetition is left
        subst hh
        cases hphase : o.transition.phase with
        | closed => exact absurd ⟨o, rfl, hphase, rfl⟩ hclose
        | opened =>
          by_cases hdup : c.isDuplicate o.hash o.now = true
          · have hc := c.correlates o
            generalize c.correlate o = y at hc ⊢
            cases hc with
            | duplicate => rfl
            | opened _ hdup' => simp [hdup] at hdup'
            | suppressed _ hphase' | paired _ hphase' | orphan hphase' => simp [hphase] at hphase'
          · have hdup' : c.isDuplicate o.hash o.now = false := by simpa using hdup
            exact absurd ⟨o, accepts_iff.mpr ⟨rfl, hphase, hdup'⟩, rfl⟩ hopen
      · refine remembered_correlate_of_ne hv hh fun s hs => hforget ⟨o, s, rfl, hs⟩
    show (c.correlate o).2.remembered h = _
    rw [hsame]
    simp [marks]

/-- The duplicate window stays as it is. -/
theorem duplicateWindow_after (x : Step) :
    x.after.duplicateWindow = x.before.duplicateWindow := by
  obtain ⟨c, action⟩ := x
  cases action with
  | markSuppressed k => rfl
  | observe o =>
    show (c.correlate o).2.duplicateWindow = c.duplicateWindow
    have hc := c.correlates o
    generalize c.correlate o = y at hc ⊢
    cases hc <;> rfl

end Step

/-! ### OPENs that stand -/

/-- The OPEN `o` is the last one accepted under a hash, and in the steps since then it has neither
been closed nor forgotten. -/
def Standing (h : ConnectionHash) (steps : List Step) (o : Observation) (since : List Step) :
    Prop :=
  ∃ front x, steps = front ++ x :: since ∧ x.Accepts o ∧ o.hash = h ∧
    ∀ y ∈ since, ¬ y.Opens h ∧ ¬ y.Closes h ∧ ¬ y.Forgets h

section Standing

variable {h : ConnectionHash} {steps since since' : List Step} {o o' : Observation} {x : Step}

theorem not_standing_nil : ¬ Standing h [] o since := by
  rintro ⟨front, x, hsteps, -⟩
  simp at hsteps

/-- After one more step the OPEN stands that it accepts, or one that stood before. -/
theorem standing_concat : Standing h (steps ++ [x]) o since ↔
    (x.Accepts o ∧ o.hash = h ∧ since = []) ∨
      (¬ x.Opens h ∧ ¬ x.Closes h ∧ ¬ x.Forgets h) ∧
        ∃ since', since = since' ++ [x] ∧ Standing h steps o since' := by
  constructor
  · rintro ⟨front, y, hsteps, haccept, hhash, hsince⟩
    rcases List.eq_nil_or_concat since with rfl | ⟨since', z, rfl⟩
    · obtain ⟨-, rfl⟩ := List.concat_inj.mp (by simpa using hsteps)
      exact .inl ⟨haccept, hhash, rfl⟩
    · rw [List.concat_eq_append] at hsteps hsince ⊢
      rw [← List.cons_append, ← List.append_assoc] at hsteps
      obtain ⟨rfl, hlast⟩ := List.append_inj' hsteps rfl
      obtain rfl : x = z := by simpa using hlast
      refine .inr ⟨hsince x (by simp), since', rfl, front, y, rfl, haccept, hhash, ?_⟩
      exact fun z hz => hsince z (List.mem_append_left _ hz)
  · rintro (⟨haccept, hhash, rfl⟩ | ⟨hx, since', rfl, front, y, rfl, haccept, hhash, hsince⟩)
    · exact ⟨steps, x, rfl, haccept, hhash, by simp⟩
    · refine ⟨front, y, by simp, haccept, hhash, fun z hz => ?_⟩
      rcases List.mem_append.mp hz with hz | hz
      · exact hsince z hz
      · obtain rfl := List.mem_singleton.mp hz
        exact hx

/-- One OPEN stands under a hash at most. -/
theorem Standing.unique (h₁ : Standing h steps o since) (h₂ : Standing h steps o' since') :
    o = o' ∧ since = since' := by
  induction steps using List.reverseRecOn generalizing since since' with
  | nil => exact absurd h₁ not_standing_nil
  | append_singleton steps x ih =>
    rcases standing_concat.mp h₁ with ⟨hx, hhash, rfl⟩ | ⟨hx, s, rfl, hs⟩ <;>
      rcases standing_concat.mp h₂ with ⟨hx', hhash', rfl⟩ | ⟨hx', s', rfl, hs'⟩
    · exact ⟨hx.unique hx', rfl⟩
    · exact absurd ⟨o, hx, hhash⟩ hx'.1
    · exact absurd ⟨o', hx', hhash'⟩ hx.1
    · obtain ⟨rfl, rfl⟩ := ih hs hs'
      exact ⟨rfl, rfl⟩

/-- After a step that accepts an OPEN it stands. -/
theorem standing_concat_of_opens (hx : x.Accepts o') :
    Standing o'.hash (steps ++ [x]) o since ↔ o = o' ∧ since = [] := by
  rw [standing_concat]
  constructor
  · rintro (⟨ho, -, rfl⟩ | ⟨⟨hopen, -⟩, -⟩)
    · exact ⟨ho.unique hx, rfl⟩
    · exact absurd ⟨o', hx, rfl⟩ hopen
  · rintro ⟨rfl, rfl⟩
    exact .inl ⟨hx, rfl, rfl⟩

end Standing

/-! ### What is remembered -/

/-- The hashes under which connections are remembered, the one accepted longest ago first. -/
def keys (c : Correlator) : List ConnectionHash :=
  c.opened.toList.map Prod.fst

theorem mem_keys_iff {c : Correlator} (hv : c.opened.Valid) {h : ConnectionHash} :
    h ∈ c.keys ↔ (c.remembered h).isSome :=
  hv.mem_keys_iff

/-- An accepted OPEN takes its hash to the end; no other step adds a hash or moves one. -/
theorem Step.keys_sublist {x : Step} (hv : x.before.opened.Valid) :
    (∃ h, x.Opens h ∧ x.after.keys.Sublist (x.before.keys.filter (· != h) ++ [h])) ∨
      (∀ h, ¬ x.Opens h) ∧ x.after.keys.Sublist x.before.keys := by
  obtain ⟨c, action⟩ := x
  cases action with
  | markSuppressed k =>
    refine .inr ⟨fun h => ?_, ?_⟩
    · rintro ⟨o, ho, -⟩
      cases ho.action
    · show (c.markSuppressed k).keys.Sublist c.keys
      obtain ⟨hlist, -⟩ := hv.modify k fun s => { s with suppressed := true }
      have hfst : (Prod.fst ∘ fun p : ConnectionHash × OpenConnection =>
          if p.1 == k then (p.1, { p.2 with suppressed := true }) else p) = Prod.fst := by
        funext p
        simp only [Function.comp_apply]
        split <;> rfl
      rw [keys, markSuppressed, hlist, List.map_map, hfst]
      exact List.Sublist.refl _
  | observe o =>
    have hopens (h : ConnectionHash) (hopen : Step.Opens ⟨c, .observe o⟩ h) :
        o.transition.phase = .opened ∧ c.isDuplicate o.hash o.now = false := by
      obtain ⟨o', ho', -⟩ := hopen
      obtain rfl := Action.observe.inj ho'.action
      exact (Step.accepts_iff.mp ho').2
    show (∃ h, _ ∧ (c.correlate o).2.keys.Sublist _) ∨ _ ∧ (c.correlate o).2.keys.Sublist _
    have hc := c.correlates o
    generalize c.correlate o = y at hc ⊢
    cases hc with
    | duplicate hphase hdup =>
      refine .inr ⟨fun h hopen => ?_, List.Sublist.refl _⟩
      have hdup' := (hopens h hopen).2
      simp [hdup] at hdup'
    | suppressed s hphase | paired s hphase | orphan hphase =>
      refine .inr ⟨fun h hopen => ?_, ?_⟩
      · have hphase' := (hopens h hopen).1
        simp [hphase] at hphase'
      · obtain ⟨hlist, -⟩ := hv.remove o.hash
        rw [keys, hlist]
        exact List.filter_sublist.map Prod.fst
    | opened hphase hdup =>
      refine .inl ⟨o.hash, ⟨o, Step.accepts_iff.mpr ⟨rfl, hphase, hdup⟩, rfl⟩, ?_⟩
      obtain ⟨-, hlist, -⟩ := hv.insert o.hash ⟨o.fresh, o.now, false⟩
      have hkeys : (c.opened.put o.hash ⟨o.fresh, o.now, false⟩).toList.map Prod.fst =
          c.keys.filter (· != o.hash) ++ [o.hash] := by
        rw [hv.toList_put, List.map_append, keys, List.filter_map]
        rfl
      rw [keys, ← hkeys, hlist]
      split
      · exact (List.tail_sublist _).map _
      · exact List.Sublist.refl _

/-- The OPEN that stands under the first hash was accepted before the one under the second. -/
def Older (steps : List Step) (h h' : ConnectionHash) : Prop :=
  ∀ o since o' since', Standing h steps o since → Standing h' steps o' since' →
    since'.length < since.length

/-- The correlator remembers the OPENs that stand after a sequence of steps, with a mark if they
were marked since, in the order in which they were accepted. -/
structure Recalls (c : Correlator) (steps : List Step) : Prop where
  valid : c.opened.Valid
  remembered_iff : ∀ h s, c.remembered h = some s ↔
    ∃ o since, Standing h steps o since ∧ s = ⟨o.fresh, o.now, since.any (Step.marks h)⟩
  ordered : c.keys.Pairwise (Older steps)

theorem recalls_new (settings : CorrelatorSettings) : Recalls (new settings) [] where
  valid := valid_new settings
  remembered_iff h s := by
    rw [remembered_new]
    constructor
    · intro hs
      cases hs
    · rintro ⟨o, since, hs, -⟩
      exact absurd hs not_standing_nil
  ordered := List.Pairwise.nil

namespace Recalls

variable {steps : List Step} {x : Step}

theorem valid_act (hr : Recalls x.before steps) : x.after.opened.Valid ∧
    x.after.opened.capacity = x.before.opened.capacity := by
  obtain ⟨c, action⟩ := x
  cases action with
  | markSuppressed k =>
    exact ⟨valid_markSuppressed hr.valid k, capacity_markSuppressed hr.valid k⟩
  | observe o => exact valid_correlate hr.valid o

theorem remembered_act_iff (hr : Recalls x.before steps) (h : ConnectionHash)
    (s : OpenConnection) : x.after.remembered h = some s ↔
      ∃ o since, Standing h (steps ++ [x]) o since ∧
        s = ⟨o.fresh, o.now, since.any (Step.marks h)⟩ := by
  by_cases hopen : x.Opens h
  · -- the OPEN that was accepted, without a mark
    obtain ⟨o, ho, rfl⟩ := hopen
    rw [ho.remembered hr.valid]
    simp only [standing_concat_of_opens ho]
    constructor
    · intro hs
      exact ⟨o, [], ⟨rfl, rfl⟩, (Option.some.inj hs).symm⟩
    · rintro ⟨o', since, ⟨rfl, rfl⟩, rfl⟩
      rfl
  by_cases hgone : x.Closes h ∨ x.Forgets h
  · -- neither the OPEN nor what was remembered of it is left
    have hnone : x.after.remembered h = none := by
      rcases hgone with hclose | hforget
      · exact hclose.remembered
      · exact hforget.remembered hr.valid
    rw [hnone]
    constructor
    · intro hs
      cases hs
    · rintro ⟨o, since, hs, -⟩
      rcases standing_concat.mp hs with ⟨ho, hhash, -⟩ | ⟨⟨-, hclose, hforget⟩, -⟩
      · exact absurd ⟨o, ho, hhash⟩ hopen
      · exact absurd hgone (by simp [hclose, hforget])
  · obtain ⟨hclose, hforget⟩ := not_or.mp hgone
    rw [Step.remembered_of_not hr.valid hopen hclose hforget, Option.map_eq_some_iff]
    constructor
    · rintro ⟨s', hs', rfl⟩
      obtain ⟨o, since, hs, rfl⟩ := (hr.remembered_iff h s').mp hs'
      have hstand := standing_concat.mpr (.inr ⟨⟨hopen, hclose, hforget⟩, since, rfl, hs⟩)
      exact ⟨o, since ++ [x], hstand, by simp⟩
    · rintro ⟨o, since, hs, rfl⟩
      rcases standing_concat.mp hs with ⟨ho, hhash, -⟩ | ⟨-, earlier, rfl, hs'⟩
      · exact absurd ⟨o, ho, hhash⟩ hopen
      · exact ⟨_, (hr.remembered_iff h _).mpr ⟨o, earlier, hs', rfl⟩, by simp⟩

/-- What was older stays so until one of the two is opened anew. -/
theorem older_concat {h h' : ConnectionHash} (ho : Older steps h h') (hopen : ¬ x.Opens h)
    (hopen' : ¬ x.Opens h') : Older (steps ++ [x]) h h' := by
  intro o since o' since' hs hs'
  rcases standing_concat.mp hs with ⟨hx, hhash, -⟩ | ⟨-, s, rfl, hstand⟩
  · exact absurd ⟨o, hx, hhash⟩ hopen
  rcases standing_concat.mp hs' with ⟨hx, hhash, -⟩ | ⟨-, s', rfl, hstand'⟩
  · exact absurd ⟨o', hx, hhash⟩ hopen'
  have hlt := ho o s o' s' hstand hstand'
  simpa using hlt

/-- An OPEN that was just accepted is younger than all the other ones. -/
theorem older_of_opens {h h' : ConnectionHash} (hopen : ¬ x.Opens h) (hopen' : x.Opens h') :
    Older (steps ++ [x]) h h' := by
  intro o since o' since' hs hs'
  rcases standing_concat.mp hs with ⟨hx, hhash, -⟩ | ⟨-, s, rfl, -⟩
  · exact absurd ⟨o, hx, hhash⟩ hopen
  obtain ⟨o'', hx, rfl⟩ := hopen'
  obtain ⟨-, rfl⟩ := (standing_concat_of_opens hx).mp hs'
  simp

theorem ordered_act (hr : Recalls x.before steps) :
    x.after.keys.Pairwise (Older (steps ++ [x])) := by
  rcases Step.keys_sublist hr.valid with ⟨h, hopen, hsub⟩ | ⟨hopen, hsub⟩
  · -- all but the last hash were there before, and no OPEN was accepted under them
    have honly {k : ConnectionHash} (hk : k ≠ h) : ¬ x.Opens k := by
      rintro ⟨o, ho, rfl⟩
      obtain ⟨o', ho', rfl⟩ := hopen
      exact hk (by rw [ho.unique ho'])
    refine List.Pairwise.sublist hsub ?_
    rw [List.pairwise_append]
    refine ⟨?_, List.pairwise_singleton _ _, ?_⟩
    · refine (hr.ordered.filter _).imp_of_mem fun ha hb hab => older_concat hab ?_ ?_
      · exact honly (by simpa using (List.mem_filter.mp ha).2)
      · exact honly (by simpa using (List.mem_filter.mp hb).2)
    · intro k hk k' hk'
      obtain rfl := List.mem_singleton.mp hk'
      exact older_of_opens (honly (by simpa using (List.mem_filter.mp hk).2)) hopen
  · have hordered := List.Pairwise.sublist hsub hr.ordered
    exact hordered.imp fun hab => older_concat hab (hopen _) (hopen _)

/-- Every action keeps it. -/
theorem act (hr : Recalls x.before steps) : Recalls x.after (steps ++ [x]) :=
  ⟨hr.valid_act.1, hr.remembered_act_iff, hr.ordered_act⟩

/-- Something is remembered under a hash if an OPEN stands under it. -/
theorem isSome_iff {c : Correlator} (hr : Recalls c steps) (h : ConnectionHash) :
    (c.remembered h).isSome ↔ ∃ o since, Standing h steps o since := by
  rw [Option.isSome_iff_exists]
  constructor
  · rintro ⟨s, hs⟩
    obtain ⟨o, since, hstand, -⟩ := (hr.remembered_iff h s).mp hs
    exact ⟨o, since, hstand⟩
  · rintro ⟨o, since, hstand⟩
    exact ⟨_, (hr.remembered_iff h _).mpr ⟨o, since, hstand, rfl⟩⟩

end Recalls

/-- After every run the correlator remembers the OPENs that stand, and its limits are the ones it
began with. -/
theorem recalls_after (settings : CorrelatorSettings) (actions : List Action) :
    Recalls ((new settings).after actions) ((new settings).trace actions) ∧
      ((new settings).after actions).opened.capacity = max settings.capacity 1 ∧
      ((new settings).after actions).duplicateWindow = settings.duplicateWindow.toNat := by
  induction actions using List.reverseRecOn with
  | nil => exact ⟨recalls_new settings, rfl, rfl⟩
  | append_singleton actions a ih =>
    rw [after_concat, trace_concat]
    obtain ⟨hr, hcapacity, hwindow⟩ := ih
    have hr' : Recalls (Step.mk ((new settings).after actions) a).before
        ((new settings).trace actions) := hr
    exact ⟨hr'.act, hr'.valid_act.2.trans hcapacity,
      (Step.duplicateWindow_after ⟨_, a⟩).trans hwindow⟩

end FlowAudit.Correlator
