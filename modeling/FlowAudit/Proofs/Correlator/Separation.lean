import Mathlib.Data.Finset.Card
import Mathlib.Data.List.Pairwise
import Mathlib.Data.Set.Function
import FlowAudit.Proofs.Correlator.Pairing

/-!
# Connections do not see each other

All connections share one bounded memory. As long as no more of them are open at a time than it has
room for (`Fits`), nothing is ever forgotten (`fits_iff`), and what the correlator answers under a
hash depends on the actions under that hash alone: it is what `judgeAll` answers to them, and that
knows of no other hash (`answersUnder_trace`).

The identifiers that are drawn differ from run to run. Two runs with the same actions under a hash
answer the same under it once those of one run are renamed to those of the other
(`exists_renaming`). Hence a connection is answered as if it were alone, and in whatever order
the actions of several connections come in (`answers_of_fits`).
-/

namespace FlowAudit

/-- What is remembered of a connection, with its identifier renamed. -/
def OpenConnection.rename (ρ : Uuid → Uuid) (s : OpenConnection) : OpenConnection :=
  { s with id := ρ s.id }

/-- An answer with its identifier renamed. -/
def Correlated.rename (ρ : Uuid → Uuid) : Correlated → Correlated
  | .event e => .event { e with id := ρ e.id }
  | .pairedClose e => .pairedClose { e with id := ρ e.id }
  | .duplicateOpen h => .duplicateOpen h
  | .suppressedClose h => .suppressedClose h

namespace Correlator

/-! ### Actions and answers under one hash -/

/-- Whether an action is done under a hash. -/
def Action.concerns (h : ConnectionHash) : Action → Bool
  | .observe o => o.hash = h
  | .markSuppressed k => k = h

/-- The actions under a hash. -/
def actionsUnder (h : ConnectionHash) (actions : List Action) : List Action :=
  actions.filter (·.concerns h)

/-- What the steps under a hash answer. -/
def answersUnder (h : ConnectionHash) (steps : List Step) : List (Option Correlated) :=
  (steps.filter (·.action.concerns h)).map Step.result

/-- What an action answers when `known` is what is remembered under its hash, and what is remembered
there behind it. -/
def Action.judge (window : Nat) (known : Option OpenConnection) :
    Action → Option Correlated × Option OpenConnection
  | .markSuppressed _ => (none, known.map fun s => { s with suppressed := true })
  | .observe o =>
    match o.transition.phase, known with
    | .opened, none => (some (.event (o.event o.fresh)), some ⟨o.fresh, o.now, false⟩)
    | .opened, some s =>
      if o.now - s.firstSeen < window then (some (.duplicateOpen o.hash), some s)
      else (some (.event (o.event o.fresh)), some ⟨o.fresh, o.now, false⟩)
    | .closed, none => (some (.event (o.event o.fresh)), none)
    | .closed, some s =>
      (some (if s.suppressed then .suppressedClose o.hash else .pairedClose (o.event s.id)), none)

/-- What a sequence of actions under one hash answers. -/
def judgeAll (window : Nat) (known : Option OpenConnection) : List Action → List (Option Correlated)
  | [] => []
  | a :: rest => (a.judge window known).1 :: judgeAll window (a.judge window known).2 rest

section Judging

variable {c : Correlator} {a : Action} {actions : List Action} {h : ConnectionHash}

/-- An action under a hash answers what is said by what is remembered there. -/
theorem judge_of_concerns (hv : c.opened.Valid) (ha : a.concerns h = true) :
    a.judge c.duplicateWindow (c.remembered h) = ((c.act a).1, (c.act a).2.remembered h) := by
  cases a with
  | markSuppressed k =>
    obtain rfl : k = h := by simpa [Action.concerns] using ha
    show _ = (none, (c.markSuppressed k).remembered k)
    rw [remembered_markSuppressed, if_pos rfl]
    rfl
  | observe o =>
    obtain rfl : o.hash = h := by simpa [Action.concerns] using ha
    show _ = (some (c.correlate o).1, (c.correlate o).2.remembered o.hash)
    cases hphase : o.transition.phase with
    | opened =>
      by_cases hdup : c.isDuplicate o.hash o.now = true
      · obtain ⟨s, hs, hlt⟩ := (isDuplicate_eq_true_iff _ _ _).mp hdup
        have hc := c.correlates o
        generalize c.correlate o = x at hc ⊢
        cases hc with
        | duplicate => simp [Action.judge, hphase, hs, hlt]
        | opened _ hdup' => simp [hdup] at hdup'
        | suppressed _ hphase' | paired _ hphase' | orphan hphase' => simp [hphase] at hphase'
      · have hnot : ¬ ∃ s, c.remembered o.hash = some s ∧ o.now - s.firstSeen < c.duplicateWindow :=
          fun hs => hdup ((isDuplicate_eq_true_iff _ _ _).mpr hs)
        rw [Bool.not_eq_true] at hdup
        rw [fst_correlate_opened hphase hdup, remembered_correlate_opened hv hphase hdup]
        cases hs : c.remembered o.hash with
        | none => simp [Action.judge, hphase]
        | some s =>
          have hge : ¬ o.now - s.firstSeen < c.duplicateWindow := fun hlt => hnot ⟨s, hs, hlt⟩
          simp [Action.judge, hphase, hge]
    | closed =>
      rw [remembered_correlate_closed hphase]
      have hc := c.correlates o
      generalize c.correlate o = x at hc ⊢
      cases hc with
      | duplicate hphase' | opened hphase' => simp [hphase] at hphase'
      | suppressed s _ hs hsup | paired s _ hs hsup => simp [Action.judge, hphase, hs, hsup]
      | orphan _ hs => simp [Action.judge, hphase, hs]

/-- An action under another hash changes nothing here, unless it makes this connection be
forgotten. -/
theorem remembered_act_of_not_concerns (hv : c.opened.Valid) (ha : a.concerns h = false)
    (hkeep : ¬ Step.Forgets ⟨c, a⟩ h) : (c.act a).2.remembered h = c.remembered h := by
  have hopen : ¬ Step.Opens ⟨c, a⟩ h := by
    rintro ⟨o, ho, rfl⟩
    obtain rfl : a = .observe o := ho.action
    simp [Action.concerns] at ha
  have hclose : ¬ Step.Closes ⟨c, a⟩ h := by
    rintro ⟨o, rfl, -, rfl⟩
    simp [Action.concerns] at ha
  have hmark : Step.marks h ⟨c, a⟩ = false := by
    rw [Step.marks, decide_eq_false_iff_not]
    rintro rfl
    simp [Action.concerns] at ha
  show (Step.after ⟨c, a⟩).remembered h = c.remembered h
  rw [Step.remembered_of_not hv hopen hclose hkeep, hmark]
  simp

theorem valid_act (hv : c.opened.Valid) (a : Action) : (c.act a).2.opened.Valid ∧
    (c.act a).2.opened.capacity = c.opened.capacity := by
  cases a with
  | markSuppressed k => exact ⟨valid_markSuppressed hv k, capacity_markSuppressed hv k⟩
  | observe o => exact valid_correlate hv o

/-- In a run that never forgets a connection, its steps answer what follows from its actions
alone. -/
theorem answersUnder_trace (hv : c.opened.Valid)
    (hkeep : ∀ x ∈ c.trace actions, ¬ x.Forgets h) :
    answersUnder h (c.trace actions) =
      judgeAll c.duplicateWindow (c.remembered h) (actionsUnder h actions) := by
  induction actions generalizing c with
  | nil => rfl
  | cons a actions ih =>
    rw [trace, List.forall_mem_cons] at hkeep
    have hrest := ih (valid_act hv a).1 hkeep.2
    have hwindow : (c.act a).2.duplicateWindow = c.duplicateWindow :=
      Step.duplicateWindow_after ⟨c, a⟩
    rw [hwindow] at hrest
    cases ha : a.concerns h with
    | true =>
      have hfirst : answersUnder h (c.trace (a :: actions)) =
          (c.act a).1 :: answersUnder h ((c.act a).2.trace actions) := by
        simp [answersUnder, trace, ha, Step.result]
      have hunder : actionsUnder h (a :: actions) = a :: actionsUnder h actions := by
        simp [actionsUnder, ha]
      rw [hfirst, hrest, hunder, judgeAll, judge_of_concerns hv ha]
    | false =>
      have hskip : answersUnder h (c.trace (a :: actions)) =
          answersUnder h ((c.act a).2.trace actions) := by
        simp [answersUnder, trace, ha]
      have hunder : actionsUnder h (a :: actions) = actionsUnder h actions := by
        simp [actionsUnder, ha]
      rw [hskip, hrest, remembered_act_of_not_concerns hv ha hkeep.1, hunder]

end Judging

/-! ### Room for all connections -/

/-- The hashes under which connections are open behind an action, by those before it. -/
def track (tracked : Finset ConnectionHash) : Action → Finset ConnectionHash
  | .observe o =>
    match o.transition.phase with
    | .opened => insert o.hash tracked
    | .closed => tracked.erase o.hash
  | .markSuppressed _ => tracked

/-- The hashes under which connections are open after a sequence of actions: the last transition
observed is an OPEN. -/
def trackedAfter (actions : List Action) : Finset ConnectionHash :=
  actions.foldl track ∅

/-- At no time are there more hashes to keep track of than `capacity`. -/
def Fits (capacity : Nat) (actions : List Action) : Prop :=
  ∀ front, front <+: actions → (trackedAfter front).card ≤ capacity

theorem trackedAfter_concat (actions : List Action) (a : Action) :
    trackedAfter (actions ++ [a]) = track (trackedAfter actions) a :=
  List.foldl_concat ..

theorem fits_concat {capacity : Nat} {actions : List Action} {a : Action} :
    Fits capacity (actions ++ [a]) ↔
      Fits capacity actions ∧ (trackedAfter (actions ++ [a])).card ≤ capacity := by
  constructor
  · intro hfits
    exact ⟨fun front hfront => hfits front (hfront.trans (List.prefix_append _ _)),
      hfits _ (List.prefix_refl _)⟩
  · rintro ⟨hfits, hlast⟩ front hfront
    rcases List.prefix_concat_iff.mp hfront with rfl | hfront
    · exact hlast
    · exact hfits front hfront

/-- The correlator remembers a connection under these hashes, and under no other one. -/
structure Tracks (c : Correlator) (tracked : Finset ConnectionHash) : Prop where
  valid : c.opened.Valid
  isSome_iff : ∀ h, (c.remembered h).isSome ↔ h ∈ tracked

theorem tracks_new (settings : CorrelatorSettings) : Tracks (new settings) ∅ where
  valid := valid_new settings
  isSome_iff h := by simp [remembered_new]

namespace Tracks

variable {c : Correlator} {a : Action} {tracked : Finset ConnectionHash}

theorem card_eq (ht : Tracks c tracked) : tracked.card = c.openConnections := by
  rw [← Finset.length_toList, openConnections]
  apply Nat.le_antisymm
  · refine ht.valid.length_le_size (Finset.nodup_toList _) fun h hh => ?_
    exact (ht.isSome_iff h).mpr (Finset.mem_toList.mp hh)
  · refine ht.valid.size_le_length fun h hh => ?_
    exact Finset.mem_toList.mpr ((ht.isSome_iff h).mp hh)

theorem card_le (ht : Tracks c tracked) : tracked.card ≤ c.opened.capacity := by
  rw [ht.card_eq]
  exact ht.valid.size_le

/-- An action that makes nothing be forgotten keeps it. -/
theorem act (ht : Tracks c tracked) (hkeep : ∀ h, ¬ Step.Forgets ⟨c, a⟩ h) :
    Tracks (c.act a).2 (track tracked a) := by
  refine ⟨(valid_act ht.valid a).1, fun h => ?_⟩
  cases ha : a.concerns h with
  | false =>
    rw [remembered_act_of_not_concerns ht.valid ha (hkeep h), ht.isSome_iff]
    cases a with
    | markSuppressed k => rfl
    | observe o =>
      have hne : h ≠ o.hash := by
        rintro rfl
        simp [Action.concerns] at ha
      cases hphase : o.transition.phase <;> simp [track, hphase, hne]
  | true =>
    have hjudge := congrArg Prod.snd (judge_of_concerns ht.valid ha)
    rw [← show _ = (c.act a).2.remembered h from hjudge]
    cases a with
    | markSuppressed k =>
      rw [Action.judge, Option.isSome_map, ht.isSome_iff]
      rfl
    | observe o =>
      obtain rfl : o.hash = h := by simpa [Action.concerns] using ha
      cases hphase : o.transition.phase <;> cases c.remembered o.hash <;>
        simp [Action.judge, track, hphase]
      split <;> rfl

/-- With room for the hashes behind an action, nothing is forgotten in it. -/
theorem not_forgets (ht : Tracks c tracked) (hroom : (track tracked a).card ≤ c.opened.capacity)
    (h : ConnectionHash) : ¬ Step.Forgets ⟨c, a⟩ h := by
  rintro ⟨o, s, rfl, hforgot⟩
  have hnone : c.forgotten o = none := by
    cases hphase : o.transition.phase with
    | closed => exact forgotten_closed hphase
    | opened =>
      refine forgotten_eq_none_of_room ht.valid ?_
      rw [ht.isSome_iff]
      by_cases hmem : o.hash ∈ tracked
      · exact .inl hmem
      · right
        have hcard : (track tracked (.observe o)).card = tracked.card + 1 := by
          simp [track, hphase, hmem]
        have hsize := ht.card_eq
        rw [openConnections] at hsize
        omega
  simp [hnone] at hforgot

end Tracks

/-- The correlator tracks all connections of a run as long as it forgets none, and it forgets none
as long as there is room for them. -/
theorem tracks_after_and_fits_iff (settings : CorrelatorSettings) (actions : List Action) :
    ((∀ x ∈ (new settings).trace actions, ∀ h, ¬ x.Forgets h) →
      Tracks ((new settings).after actions) (trackedAfter actions)) ∧
    (Fits (max settings.capacity 1) actions ↔
      ∀ x ∈ (new settings).trace actions, ∀ h, ¬ x.Forgets h) := by
  induction actions using List.reverseRecOn with
  | nil =>
    refine ⟨fun _ => tracks_new settings, fun _ => by simp [trace], fun _ front hfront => ?_⟩
    obtain rfl := List.prefix_nil.mp hfront
    simp [trackedAfter]
  | append_singleton actions a ih =>
    obtain ⟨htracks, hfits⟩ := ih
    have hcapacity := (recalls_after settings actions).2.1
    have hcapacity' := (recalls_after settings (actions ++ [a])).2.1
    rw [fits_concat, trace_concat, List.forall_mem_append, List.forall_mem_singleton, hfits]
    have hkeeps : (∀ x ∈ (new settings).trace actions, ∀ h, ¬ x.Forgets h) ∧
        (∀ h, ¬ Step.Forgets ⟨(new settings).after actions, a⟩ h) →
        Tracks ((new settings).after (actions ++ [a])) (trackedAfter (actions ++ [a])) := by
      rintro ⟨hfront, hlast⟩
      rw [after_concat, trackedAfter_concat]
      exact (htracks hfront).act hlast
    refine ⟨hkeeps, and_congr_right fun hfront => ⟨fun hroom => ?_, fun hlast => ?_⟩⟩
    · rw [trackedAfter_concat, ← hcapacity] at hroom
      exact (htracks hfront).not_forgets hroom
    · rw [← hcapacity']
      exact (hkeeps ⟨hfront, hlast⟩).card_le

/-- Nothing is forgotten in a run if and only if there is room for all its connections. -/
theorem fits_iff {settings : CorrelatorSettings} {actions : List Action} :
    Fits (max settings.capacity 1) actions ↔
      ∀ x ∈ (new settings).trace actions, ∀ h, ¬ x.Forgets h :=
  (tracks_after_and_fits_iff settings actions).2

/-- With room for all connections, the answers under a hash follow from the actions under it. -/
theorem answersUnder_of_fits {settings : CorrelatorSettings} {actions : List Action}
    (hfits : Fits (max settings.capacity 1) actions) (h : ConnectionHash) :
    answersUnder h ((new settings).trace actions) =
      judgeAll settings.duplicateWindow.toNat none (actionsUnder h actions) := by
  rw [answersUnder_trace (valid_new settings) fun x hx => fits_iff.mp hfits x hx h,
    remembered_new]
  rfl

/-! ### Renaming identifiers -/

/-- An action with the identifier that comes with it renamed. -/
def Action.rename (ρ : Uuid → Uuid) : Action → Action
  | .observe o => .observe { o with fresh := ρ o.fresh }
  | .markSuppressed h => .markSuppressed h

/-- An action without the identifier that comes with it. -/
def Action.anonymous (a : Action) : Action :=
  a.rename fun _ => .nil

/-- The identifier that is drawn for an answer. -/
def issued? : Option Correlated → Option Uuid
  | some (.event e) => some e.id
  | _ => none

theorem issued?_rename (ρ : Uuid → Uuid) (answer : Option Correlated) :
    issued? (answer.map (·.rename ρ)) = (issued? answer).map ρ := by
  rcases answer with _ | e | e | h | h <;> rfl

section Renaming

variable {window : Nat} {known : Option OpenConnection} {a a' : Action}
  {actions actions' : List Action}

/-- What is answered to an action does not depend on what identifiers are called. -/
theorem judge_rename (window : Nat) (known : Option OpenConnection) (a : Action) (ρ : Uuid → Uuid) :
    (a.rename ρ).judge window (known.map (·.rename ρ)) =
      ((a.judge window known).1.map (·.rename ρ), (a.judge window known).2.map (·.rename ρ)) := by
  cases a with
  | markSuppressed h => cases known <;> rfl
  | observe o =>
    obtain ⟨⟨phase, connection⟩, resolution, fresh, timestamp, now⟩ := o
    cases phase with
    | opened =>
      cases known with
      | none => rfl
      | some s =>
        by_cases hdup : now - s.firstSeen < window
        · simp [Action.judge, Action.rename, OpenConnection.rename, Correlated.rename,
            Observation.hash, hdup]
        · simp [Action.judge, Action.rename, OpenConnection.rename, Correlated.rename,
            Observation.event, hdup]
    | closed =>
      cases known with
      | none => rfl
      | some s =>
        obtain ⟨id, firstSeen, suppressed⟩ := s
        cases suppressed <;> rfl

/-- Of the identifiers that come with actions only those matter that are drawn. -/
theorem judge_congr (hsame : a'.anonymous = a.anonymous)
    (hissued : issued? (a'.judge window known).1 = issued? (a.judge window known).1) :
    a'.judge window known = a.judge window known := by
  cases a with
  | markSuppressed h =>
    cases a' with
    | markSuppressed h' => rw [Action.markSuppressed.inj hsame]
    | observe o' => cases hsame
  | observe o =>
    cases a' with
    | markSuppressed h' => cases hsame
    | observe o' =>
      obtain ⟨⟨phase, connection⟩, resolution, fresh, timestamp, now⟩ := o
      obtain ⟨transition', resolution', fresh', timestamp', now'⟩ := o'
      simp only [Action.anonymous, Action.rename, Action.observe.injEq, Observation.mk.injEq,
        true_and] at hsame
      obtain ⟨rfl, rfl, rfl, rfl⟩ := hsame
      cases phase with
      | opened =>
        cases known with
        | none =>
          obtain rfl : fresh' = fresh := Option.some.inj hissued
          rfl
        | some s =>
          by_cases hdup : now' - s.firstSeen < window
          · simp [Action.judge, Observation.hash, hdup]
          · obtain rfl : fresh' = fresh := by
              simpa [Action.judge, issued?, Observation.event, hdup] using hissued
            rfl
      | closed =>
        cases known with
        | none =>
          obtain rfl : fresh' = fresh := Option.some.inj hissued
          rfl
        | some s => rfl

theorem judgeAll_rename (window : Nat) (known : Option OpenConnection) (actions : List Action)
    (ρ : Uuid → Uuid) :
    judgeAll window (known.map (·.rename ρ)) (actions.map (·.rename ρ)) =
      (judgeAll window known actions).map (Option.map (·.rename ρ)) := by
  induction actions generalizing known with
  | nil => rfl
  | cons a actions ih => rw [List.map_cons, judgeAll, judge_rename, ih, judgeAll, List.map_cons]

/-- Two actions that are the same but for their identifiers both draw one, or neither does. -/
theorem isSome_issued?_judge (window : Nat) (known : Option OpenConnection)
    (hsame : a'.anonymous = a.anonymous) :
    (issued? (a'.judge window known).1).isSome = (issued? (a.judge window known).1).isSome := by
  have hanonymous (b : Action) : (issued? (b.judge window known).1).isSome =
      (issued? (b.anonymous.judge window (known.map (·.rename fun _ => .nil))).1).isSome := by
    rw [Action.anonymous, judge_rename, issued?_rename, Option.isSome_map]
  rw [hanonymous a', hanonymous a, hsame]

theorem judgeAll_congr (hsame : actions'.map Action.anonymous = actions.map Action.anonymous)
    (hdrawn : (judgeAll window known actions').filterMap issued? =
      (judgeAll window known actions).filterMap issued?) :
    judgeAll window known actions' = judgeAll window known actions := by
  induction actions generalizing actions' known with
  | nil =>
    obtain rfl := List.map_eq_nil_iff.mp hsame
    rfl
  | cons a actions ih =>
    obtain ⟨a', actions', rfl, ha, hactions⟩ := List.map_eq_cons_iff.mp hsame
    rw [judgeAll, judgeAll] at hdrawn ⊢
    have hsome := isSome_issued?_judge window known ha
    -- what the first two draw is the same, and so is what is drawn behind them
    have hsplit : issued? (a'.judge window known).1 = issued? (a.judge window known).1 ∧
        (judgeAll window (a'.judge window known).2 actions').filterMap issued? =
          (judgeAll window (a.judge window known).2 actions).filterMap issued? := by
      rw [List.filterMap_cons, List.filterMap_cons] at hdrawn
      cases h : issued? (a.judge window known).1 <;>
        cases h' : issued? (a'.judge window known).1 <;> simp_all
    obtain ⟨hissued, hrest⟩ := hsplit
    have hjudge := judge_congr ha hissued
    rw [hjudge] at hrest ⊢
    rw [ih hactions hrest]

/-- The same actions draw equally many identifiers. -/
theorem length_issued (hsame : actions'.map Action.anonymous = actions.map Action.anonymous) :
    ((judgeAll window none actions').filterMap issued?).length =
      ((judgeAll window none actions).filterMap issued?).length := by
  have hanonymous (actions : List Action) :
      ((judgeAll window none actions).filterMap issued?).length =
        ((judgeAll window none (actions.map Action.anonymous)).filterMap issued?).length := by
    have hrename := judgeAll_rename window none actions fun _ => .nil
    have hmap : issued? ∘ Option.map (·.rename fun _ => Uuid.nil) =
        fun answer => (issued? answer).map fun _ => Uuid.nil :=
      funext fun answer => issued?_rename _ answer
    rw [Option.map_none] at hrename
    rw [show Action.anonymous = (·.rename fun _ => .nil) from rfl, hrename, List.filterMap_map,
      hmap, ← List.map_filterMap, List.length_map]
  rw [hanonymous actions', hanonymous actions, hsame]

/-- The same actions answer the same once the identifiers drawn in one run are renamed to those
drawn in the other. -/
theorem judgeAll_eq_rename {ρ : Uuid → Uuid}
    (hsame : actions'.map Action.anonymous = actions.map Action.anonymous)
    (hdrawn : (judgeAll window none actions').filterMap issued? =
      ((judgeAll window none actions).filterMap issued?).map ρ) :
    judgeAll window none actions' =
      (judgeAll window none actions).map (Option.map (·.rename ρ)) := by
  have hrename := judgeAll_rename window none actions ρ
  rw [Option.map_none] at hrename
  rw [← hrename]
  refine judgeAll_congr ?_ ?_
  · rw [hsame, List.map_map]
    refine List.map_congr_left fun a _ => ?_
    cases a <;> rfl
  · rw [hdrawn, hrename, List.filterMap_map, List.map_filterMap]
    exact List.filterMap_congr fun answer _ => (issued?_rename ρ answer).symm

end Renaming

/-! ### Identifiers drawn under different hashes -/

/-- The identifiers that are drawn under each hash. -/
def drawnUnder (steps : List Step) (h : ConnectionHash) : List Uuid :=
  drawn (steps.filter (·.action.concerns h))

theorem issued?_result (x : Step) : issued? x.result = x.drawn? := by
  obtain ⟨c, action⟩ := x
  cases action with
  | markSuppressed h => rfl
  | observe o =>
    have hresult : Step.result ⟨c, .observe o⟩ = some (c.correlate o).1 := rfl
    simp only [Step.drawn?, hresult]
    have hc := c.correlates o
    generalize c.correlate o = y at hc ⊢
    cases hc <;> rfl

theorem filterMap_issued?_answersUnder (h : ConnectionHash) (steps : List Step) :
    (answersUnder h steps).filterMap issued? = drawnUnder steps h := by
  rw [answersUnder, List.filterMap_map]
  exact List.filterMap_congr fun x _ => issued?_result x

/-- No identifier stands at two places of such lists. -/
def Distinct (lists : ConnectionHash → List Uuid) : Prop :=
  ∀ ⦃h h' : ConnectionHash⦄ ⦃i i' : Nat⦄ ⦃u : Uuid⦄,
    (lists h)[i]? = some u → (lists h')[i']? = some u → h = h' ∧ i = i'

/-- An identifier that is drawn once is drawn once under one hash. -/
theorem distinct_drawnUnder {steps : List Step} (hfresh : (drawn steps).Nodup) :
    Distinct (drawnUnder steps) := by
  intro h h' i i' u hi hi'
  have hmem {k : ConnectionHash} {j : Nat} (hj : (drawnUnder steps k)[j]? = some u) :
      ∃ x ∈ steps, x.action.concerns k = true ∧ x.drawn? = some u := by
    obtain ⟨x, hx, hdrawn⟩ := List.mem_filterMap.mp (List.mem_of_getElem? hj)
    exact ⟨x, (List.mem_filter.mp hx).1, (List.mem_filter.mp hx).2, hdrawn⟩
  obtain ⟨x, hx, hconcerns, hdrawn⟩ := hmem hi
  obtain ⟨x', hx', hconcerns', hdrawn'⟩ := hmem hi'
  obtain rfl : x = x' := by
    by_contra hne
    have hsymm : Std.Symm fun y y' : Step =>
        ∀ v, y.drawn? = some v → ∀ v', y'.drawn? = some v' → v ≠ v' :=
      ⟨fun _ _ hy v hv v' hv' => (hy v' hv' v hv).symm⟩
    have hdiffer := (List.pairwise_filterMap.mp hfresh).forall hx hx' hne
    exact hdiffer u hdrawn u hdrawn' rfl
  have hhash : h = h' := by
    cases haction : x.action with
    | observe o => simp_all [Action.concerns]
    | markSuppressed k => simp_all [Action.concerns]
  subst hhash
  have hnodup : (drawnUnder steps h).Nodup :=
    (List.filter_sublist.filterMap Step.drawn?).nodup hfresh
  have hlt : i < (drawnUnder steps h).length := (List.getElem?_eq_some_iff.mp hi).1
  exact ⟨rfl, (List.getElem?_inj hlt hnodup).mp (hi.trans hi'.symm)⟩

/-- The identifiers in some of such lists can be renamed to those in others of the same lengths. -/
theorem exists_renaming {lists lists' : ConnectionHash → List Uuid} (hashes : Set ConnectionHash)
    (hdistinct : Distinct lists) (hdistinct' : Distinct lists')
    (hlength : ∀ h ∈ hashes, (lists' h).length = (lists h).length) :
    ∃ ρ : Uuid → Uuid, Set.InjOn ρ {u | ∃ h ∈ hashes, u ∈ lists h} ∧
      ∀ h ∈ hashes, lists' h = (lists h).map ρ := by
  -- an identifier is renamed to the one at its place
  have hplace (u : Uuid) : ∃ v, ∀ h ∈ hashes, ∀ i : Nat, (lists h)[i]? = some u →
      (lists' h)[i]? = some v := by
    by_cases hu : ∃ h ∈ hashes, ∃ i : Nat, (lists h)[i]? = some u
    · obtain ⟨h, hh, i, hi⟩ := hu
      have hlt : i < (lists' h).length := by
        rw [hlength h hh]
        exact (List.getElem?_eq_some_iff.mp hi).1
      refine ⟨(lists' h)[i], fun h' _ i' hi' => ?_⟩
      obtain ⟨rfl, rfl⟩ := hdistinct hi hi'
      exact List.getElem?_eq_getElem hlt
    · exact ⟨u, fun h hh i hi => absurd ⟨h, hh, i, hi⟩ hu⟩
  choose ρ hρ using hplace
  refine ⟨ρ, ?_, fun h hh => ?_⟩
  · rintro u ⟨h, hh, hu⟩ v ⟨k, hk, hv⟩ huv
    obtain ⟨i, hi⟩ := List.getElem?_of_mem hu
    obtain ⟨j, hj⟩ := List.getElem?_of_mem hv
    have hi' := hρ u h hh i hi
    have hj' := hρ v k hk j hj
    rw [← huv] at hj'
    obtain ⟨rfl, rfl⟩ := hdistinct' hi' hj'
    exact Option.some.inj (hi.symm.trans hj)
  · apply List.ext_getElem?
    intro i
    rw [List.getElem?_map]
    cases hi : (lists h)[i]? with
    | some u => exact hρ u h hh i hi
    | none =>
      rw [List.getElem?_eq_none_iff] at hi
      exact List.getElem?_eq_none_iff.mpr (by rw [hlength h hh]; exact hi)

/-! ### Runs with the same actions -/

/-- The same actions under a hash, but for the identifiers that come with them. -/
def SameUnder (h : ConnectionHash) (actions actions' : List Action) : Prop :=
  (actionsUnder h actions').map Action.anonymous = (actionsUnder h actions).map Action.anonymous

/-- With room for all connections of two runs, they answer the same under all hashes under which
they have the same actions, up to a renaming of identifiers. -/
theorem exists_rename_answersUnder {settings : CorrelatorSettings} {actions actions' : List Action}
    (hashes : Set ConnectionHash) (hfits : Fits (max settings.capacity 1) actions)
    (hfits' : Fits (max settings.capacity 1) actions')
    (hsame : ∀ h ∈ hashes, SameUnder h actions actions')
    (hfresh : (drawn ((new settings).trace actions)).Nodup)
    (hfresh' : (drawn ((new settings).trace actions')).Nodup) :
    ∃ ρ : Uuid → Uuid,
      Set.InjOn ρ {u | ∃ h ∈ hashes, u ∈ drawnUnder ((new settings).trace actions) h} ∧
      ∀ h ∈ hashes, answersUnder h ((new settings).trace actions') =
        (answersUnder h ((new settings).trace actions)).map (Option.map (·.rename ρ)) := by
  have hlength : ∀ h ∈ hashes, (drawnUnder ((new settings).trace actions') h).length =
      (drawnUnder ((new settings).trace actions) h).length := by
    intro h hh
    rw [← filterMap_issued?_answersUnder, ← filterMap_issued?_answersUnder,
      answersUnder_of_fits hfits, answersUnder_of_fits hfits']
    exact length_issued (hsame h hh)
  obtain ⟨ρ, hinj, hρ⟩ := exists_renaming hashes (distinct_drawnUnder hfresh)
    (distinct_drawnUnder hfresh') hlength
  refine ⟨ρ, hinj, fun h hh => ?_⟩
  have hdrawn := hρ h hh
  rw [← filterMap_issued?_answersUnder, ← filterMap_issued?_answersUnder,
    answersUnder_of_fits hfits, answersUnder_of_fits hfits'] at hdrawn
  rw [answersUnder_of_fits hfits, answersUnder_of_fits hfits']
  exact judgeAll_eq_rename (hsame h hh) hdrawn

/-- Actions under so many hashes always have room. -/
theorem fits_of_concerns {capacity : Nat} {actions : List Action} (hashes : Finset ConnectionHash)
    (hcard : hashes.card ≤ capacity) (hall : ∀ a ∈ actions, ∃ h ∈ hashes, a.concerns h = true) :
    Fits capacity actions := by
  have hsubset : ∀ front, (∀ a ∈ front, ∃ h ∈ hashes, a.concerns h = true) →
      trackedAfter front ⊆ hashes := by
    intro front hfront
    induction front using List.reverseRecOn with
    | nil => simp [trackedAfter]
    | append_singleton front a ih =>
      rw [List.forall_mem_append, List.forall_mem_singleton] at hfront
      rw [trackedAfter_concat]
      have htracked := ih hfront.1
      obtain ⟨h, hh, hconcerns⟩ := hfront.2
      cases a with
      | markSuppressed k => exact htracked
      | observe o =>
        obtain rfl : o.hash = h := by simpa [Action.concerns] using hconcerns
        cases hphase : o.transition.phase with
        | opened =>
          rw [track, hphase]
          exact Finset.insert_subset hh htracked
        | closed =>
          rw [track, hphase]
          exact (Finset.erase_subset _ _).trans htracked
  intro front hfront
  have hcard' := Finset.card_le_card (hsubset front fun a ha => hall a (hfront.subset ha))
  exact hcard'.trans hcard

theorem concerns_anonymous (h : ConnectionHash) (a : Action) :
    a.anonymous.concerns h = a.concerns h := by
  cases a <;> rfl

theorem map_action_trace (c : Correlator) (actions : List Action) :
    (c.trace actions).map Step.action = actions := by
  induction actions generalizing c with
  | nil => rfl
  | cons a actions ih => rw [trace, List.map_cons, ih]

/-- If no more connections are open at a time than there is room for, every connection is answered
as if it were alone: in a run with only its actions the answers are the same, up to a renaming of
the identifiers drawn. Hence they are the same in any two such runs that have the same actions for
each connection, whatever the order of actions of different ones; and the renaming is one for
all. -/
theorem answers_of_fits (settings : CorrelatorSettings) {actions : List Action}
    (hfits : Fits (max settings.capacity 1) actions)
    (hfresh : (drawn ((new settings).trace actions)).Nodup) :
    (∀ h alone, alone.map Action.anonymous = (actionsUnder h actions).map Action.anonymous →
      (drawn ((new settings).trace alone)).Nodup →
      ∃ ρ : Uuid → Uuid, Set.InjOn ρ {u | u ∈ drawnUnder ((new settings).trace actions) h} ∧
        ((new settings).trace alone).map Step.result =
          (answersUnder h ((new settings).trace actions)).map (Option.map (·.rename ρ))) ∧
    ∀ actions', Fits (max settings.capacity 1) actions' →
      (∀ h, SameUnder h actions actions') →
      (drawn ((new settings).trace actions')).Nodup →
      ∃ ρ : Uuid → Uuid, Set.InjOn ρ {u | ∃ h, u ∈ drawnUnder ((new settings).trace actions) h} ∧
        ∀ h, answersUnder h ((new settings).trace actions') =
          (answersUnder h ((new settings).trace actions)).map (Option.map (·.rename ρ)) := by
  constructor
  · intro h alone halone hfresh'
    have hall : ∀ a ∈ alone, a.concerns h = true := by
      intro a ha
      have hmem : a.anonymous ∈ (actionsUnder h actions).map Action.anonymous := by
        rw [← halone]
        exact List.mem_map_of_mem ha
      obtain ⟨b, hb, hba⟩ := List.mem_map.mp hmem
      rw [← concerns_anonymous, ← hba, concerns_anonymous]
      exact (List.mem_filter.mp hb).2
    have hfits' : Fits (max settings.capacity 1) alone :=
      fits_of_concerns {h} (by simp) fun a ha => ⟨h, by simp, hall a ha⟩
    have hunder : actionsUnder h alone = alone := List.filter_eq_self.mpr hall
    have hanswers : answersUnder h ((new settings).trace alone) =
        ((new settings).trace alone).map Step.result := by
      rw [answersUnder, List.filter_eq_self.mpr]
      intro x hx
      refine hall x.action ?_
      rw [← map_action_trace (new settings) alone]
      exact List.mem_map_of_mem hx
    obtain ⟨ρ, hinj, hρ⟩ := exists_rename_answersUnder {h} hfits hfits'
      (by simpa [SameUnder, hunder] using halone) hfresh hfresh'
    refine ⟨ρ, by simpa using hinj, ?_⟩
    rw [← hanswers]
    exact hρ h rfl
  · intro actions' hfits' hsame hfresh'
    obtain ⟨ρ, hinj, hρ⟩ := exists_rename_answersUnder Set.univ hfits hfits'
      (fun h _ => hsame h) hfresh hfresh'
    exact ⟨ρ, by simpa using hinj, fun h => hρ h (Set.mem_univ h)⟩

/-! ### Two connections side by side -/

/-- What is observed of another connection than the one of `seen`. -/
def seenBeside (phase : Phase) (fresh : Uuid) (now : Nat) : Observation :=
  ⟨⟨phase, ⟨.udp, .v4 ⟨10, 0, 0, 1⟩, 4000, .v4 ⟨8, 8, 8, 8⟩, 123⟩⟩, .unresolved, fresh, default,
    now⟩

/-- Two connections are opened, of which one is marked, and closed. -/
def crossed : List Action :=
  [.observe (seen .opened ⟨0, 1⟩ 0), .observe (seenBeside .opened ⟨0, 2⟩ 1),
    .markSuppressed (seenBeside .opened ⟨0, 2⟩ 1).hash, .observe (seen .closed ⟨0, 3⟩ 5),
    .observe (seenBeside .closed ⟨0, 4⟩ 6)]

/-- One of the two connections comes and goes before the other one, under other identifiers. -/
def uncrossed : List Action :=
  [.observe (seenBeside .opened ⟨7, 1⟩ 1), .markSuppressed (seenBeside .opened ⟨7, 1⟩ 1).hash,
    .observe (seenBeside .closed ⟨7, 2⟩ 6), .observe (seen .opened ⟨7, 3⟩ 0),
    .observe (seen .closed ⟨7, 4⟩ 5)]

theorem answers_of_crossed :
    Fits 2 crossed ∧ (drawn ((new { capacity := 2 }).trace crossed)).Nodup ∧
      ∃ ρ : Uuid → Uuid, ∀ h, answersUnder h ((new { capacity := 2 }).trace uncrossed) =
        (answersUnder h ((new { capacity := 2 }).trace crossed)).map (Option.map (·.rename ρ)) := by
  have hne : (seen .opened ⟨0, 1⟩ 0).hash ≠ (seenBeside .opened ⟨0, 2⟩ 1).hash := by
    decide +kernel
  -- the two hashes, which differ, by names of their own
  obtain ⟨k, hk⟩ : ∃ k, ∀ p u n, (seen p u n).hash = k :=
    ⟨(seen .opened ⟨0, 1⟩ 0).hash, fun _ _ _ => rfl⟩
  obtain ⟨l, hl⟩ : ∃ l, ∀ p u n, (seenBeside p u n).hash = l :=
    ⟨(seenBeside .opened ⟨0, 2⟩ 1).hash, fun _ _ _ => rfl⟩
  rw [hk, hl] at hne
  have hfits : Fits 2 crossed :=
    fits_of_concerns {k, l} Finset.card_le_two (by simp [crossed, Action.concerns, hk, hl])
  have hfits' : Fits 2 uncrossed :=
    fits_of_concerns {k, l} Finset.card_le_two (by simp [uncrossed, Action.concerns, hk, hl])
  have hfresh : (drawn ((new { capacity := 2 }).trace crossed)).Nodup :=
    (drawn_sublist _ _).nodup (by decide)
  have hfresh' : (drawn ((new { capacity := 2 }).trace uncrossed)).Nodup :=
    (drawn_sublist _ _).nodup (by decide)
  have hsame (h : ConnectionHash) : SameUnder h crossed uncrossed := by
    by_cases hkh : k = h
    · have hlh : l ≠ h := fun heq => hne (hkh.trans heq.symm)
      simp only [SameUnder, actionsUnder, crossed, uncrossed, Action.concerns, hk, hl, hkh, hlh,
        List.filter_cons, List.filter_nil, decide_true, decide_false, if_true, Bool.false_eq_true,
        if_false]
      rfl
    · by_cases hlh : l = h
      · simp only [SameUnder, actionsUnder, crossed, uncrossed, Action.concerns, hk, hl, hkh, hlh,
          List.filter_cons, List.filter_nil, decide_true, decide_false, if_true,
          Bool.false_eq_true, if_false]
        rfl
      · simp [SameUnder, actionsUnder, crossed, uncrossed, Action.concerns, hk, hl, hkh, hlh]
  obtain ⟨ρ, -, hρ⟩ :=
    (answers_of_fits { capacity := 2 } hfits hfresh).2 uncrossed hfits' hsame hfresh'
  exact ⟨hfits, hfresh, ρ, hρ⟩

end Correlator

end FlowAudit
