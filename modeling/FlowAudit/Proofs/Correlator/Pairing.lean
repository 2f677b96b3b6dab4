import FlowAudit.Proofs.Correlator.History

/-!
# The answers of a correlator

What a correlator answers to a transition is told by the OPENs that stand in front of it
(`Recalls.answers`), and so is which connection it forgets (`Recalls.forgets_iff`). An identifier is
drawn for every event but the CLOSE of an OPEN that stands, which takes the one of the OPEN. If no
identifier is drawn twice, an OPEN and its CLOSE are the only events that share one
(`Identified.concat` for one step).

`history_of_run` says both of every run.
-/

namespace FlowAudit.Correlator

/-! ### Answers -/

/-- What a step answers, told by the OPENs that stand in front of it. -/
inductive Answers (steps : List Step) (x : Step) : Option Correlated → Prop
  | mark (h : ConnectionHash) (haction : x.action = .markSuppressed h) : Answers steps x none
  | duplicate (o : Observation) (haction : x.action = .observe o)
    (hphase : o.transition.phase = .opened) : Answers steps x (some (.duplicateOpen o.hash))
  | opened (o : Observation) (ho : x.Accepts o) :
    Answers steps x (some (.event (o.event o.fresh)))
  /-- The CLOSE of an OPEN that was marked since. -/
  | suppressed (o o' : Observation) (since : List Step) (haction : x.action = .observe o)
    (hphase : o.transition.phase = .closed) (hs : Standing o.hash steps o' since)
    (hmark : since.any (Step.marks o.hash) = true) :
    Answers steps x (some (.suppressedClose o.hash))
  /-- The CLOSE of any other OPEN that stands. -/
  | paired (o o' : Observation) (since : List Step) (haction : x.action = .observe o)
    (hphase : o.transition.phase = .closed) (hs : Standing o.hash steps o' since)
    (hmark : since.any (Step.marks o.hash) = false) :
    Answers steps x (some (.pairedClose (o.event o'.fresh)))
  /-- A CLOSE under a hash under which no OPEN stands. -/
  | orphan (o : Observation) (haction : x.action = .observe o)
    (hphase : o.transition.phase = .closed) (hs : ∀ o' since, ¬ Standing o.hash steps o' since) :
    Answers steps x (some (.event (o.event o.fresh)))

namespace Recalls

variable {steps : List Step} {x : Step}

theorem answers (hr : Recalls x.before steps) : Answers steps x x.result := by
  obtain ⟨c, action⟩ := x
  cases action with
  | markSuppressed h => exact .mark h rfl
  | observe o =>
    show Answers steps ⟨c, .observe o⟩ (some (c.correlate o).1)
    have hc := c.correlates o
    generalize c.correlate o = y at hc ⊢
    cases hc with
    | duplicate hphase => exact .duplicate o rfl hphase
    | opened hphase hdup => exact .opened o (Step.accepts_iff.mpr ⟨rfl, hphase, hdup⟩)
    | suppressed s hphase hs hsup =>
      obtain ⟨o', since, hstand, rfl⟩ := (hr.remembered_iff _ _).mp hs
      exact .suppressed o o' since rfl hphase hstand hsup
    | paired s hphase hs hsup =>
      obtain ⟨o', since, hstand, rfl⟩ := (hr.remembered_iff _ _).mp hs
      exact .paired o o' since rfl hphase hstand hsup
    | orphan hphase hs =>
      refine .orphan o rfl hphase fun o' since hstand => ?_
      have hsome : (c.remembered o.hash).isSome := (hr.isSome_iff _).mpr ⟨o', since, hstand⟩
      rw [hs] at hsome
      cases hsome

/-! ### Forgetting -/

/-- The first hash is the one whose OPEN was accepted longest ago. -/
theorem head?_keys_iff {c : Correlator} (hr : Recalls c steps) {h : ConnectionHash} :
    c.keys.head? = some h ↔ ∃ o since, Standing h steps o since ∧
      ∀ h' o' since', Standing h' steps o' since' → since'.length ≤ since.length := by
  have hmem (k : ConnectionHash) : k ∈ c.keys ↔ ∃ o since, Standing k steps o since := by
    rw [mem_keys_iff hr.valid, hr.isSome_iff]
  have hordered := hr.ordered
  constructor
  · intro hhead
    obtain ⟨rest, hkeys⟩ := List.head?_eq_some_iff.mp hhead
    obtain ⟨o, since, hs⟩ := (hmem h).mp (by simp [hkeys])
    refine ⟨o, since, hs, fun h' o' since' hs' => ?_⟩
    have hh' : h' ∈ c.keys := (hmem h').mpr ⟨o', since', hs'⟩
    rw [hkeys, List.mem_cons] at hh'
    rcases hh' with rfl | hrest
    · exact Nat.le_of_eq (congrArg List.length (hs.unique hs').2).symm
    · rw [hkeys, List.pairwise_cons] at hordered
      exact Nat.le_of_lt (hordered.1 h' hrest o since o' since' hs hs')
  · rintro ⟨o, since, hs, holdest⟩
    have hh : h ∈ c.keys := (hmem h).mpr ⟨o, since, hs⟩
    cases hkeys : c.keys with
    | nil => simp [hkeys] at hh
    | cons k rest =>
      rw [hkeys, List.mem_cons] at hh
      rcases hh with rfl | hrest
      · rfl
      · obtain ⟨o', since', hs'⟩ := (hmem k).mp (by simp [hkeys])
        rw [hkeys, List.pairwise_cons] at hordered
        have hlt := hordered.1 h hrest o' since' o since hs' hs
        exact absurd (holdest k o' since' hs') (Nat.not_le.mpr hlt)

/-- A connection is forgotten when an OPEN is accepted under a new hash while the memory is full,
and it is the one whose OPEN was accepted longest ago. -/
theorem forgets_iff (hr : Recalls x.before steps) {h : ConnectionHash} :
    x.Forgets h ↔ ∃ o, x.Accepts o ∧ x.before.remembered o.hash = none ∧
      x.before.openConnections = x.before.opened.capacity ∧
      ∃ o' since, Standing h steps o' since ∧
        ∀ h' o'' since', Standing h' steps o'' since' → since'.length ≤ since.length := by
  rw [← hr.head?_keys_iff]
  have hhead (h : ConnectionHash) : x.before.keys.head? = some h ↔
      ∃ s, x.before.opened.toList.head? = some (h, s) := by
    simp [keys, List.head?_map]
  constructor
  · rintro ⟨o, s, haction, hforgot⟩
    -- the memory is full, and the hash is a new one
    have hroom : ¬ ((x.before.remembered o.hash).isSome ∨
        x.before.opened.size < x.before.opened.capacity) := by
      intro hroom
      rw [forgotten_eq_none_of_room hr.valid hroom] at hforgot
      cases hforgot
    obtain ⟨hnone, hsize⟩ := not_or.mp hroom
    have hnone' : x.before.remembered o.hash = none := by simpa using hnone
    have hfull : x.before.opened.size = x.before.opened.capacity :=
      Nat.le_antisymm hr.valid.size_le (Nat.not_lt.mp hsize)
    cases hphase : o.transition.phase with
    | closed =>
      rw [forgotten_closed hphase] at hforgot
      cases hforgot
    | opened =>
      have hdup := isDuplicate_eq_false_of_remembered hnone' o.now
      rw [forgotten_of_opened hphase hdup, hr.valid.fst_insert_of_full _ hnone' hfull] at hforgot
      exact ⟨o, Step.accepts_iff.mpr ⟨haction, hphase, hdup⟩, hnone', hfull,
        (hhead h).mpr ⟨s, hforgot⟩⟩
  · rintro ⟨o, ho, hnone, hfull, hkeys⟩
    obtain ⟨haction, hphase, hdup⟩ := Step.accepts_iff.mp ho
    obtain ⟨s, hs⟩ := (hhead h).mp hkeys
    refine ⟨o, s, haction, ?_⟩
    rw [forgotten_of_opened hphase hdup, hr.valid.fst_insert_of_full _ hnone hfull, hs]

end Recalls

/-! ### Events and their identifiers -/

/-- The event that a step answers. -/
def Step.event? (x : Step) : Option Event :=
  match x.result with
  | some (.event e) | some (.pairedClose e) => some e
  | _ => none

/-- The identifier that is drawn in a step. -/
def Step.drawn? (x : Step) : Option Uuid :=
  match x.action, x.result with
  | .observe o, some (.event _) => some o.fresh
  | _, _ => none

/-- The events of a sequence of steps. -/
def events (steps : List Step) : List Event :=
  steps.filterMap Step.event?

/-- The identifiers that are drawn in a sequence of steps. -/
def drawn (steps : List Step) : List Uuid :=
  steps.filterMap Step.drawn?

theorem events_concat (steps : List Step) (x : Step) :
    events (steps ++ [x]) = events steps ++ x.event?.toList := by
  cases he : x.event? <;> simp [events, he]

theorem drawn_concat (steps : List Step) (x : Step) :
    drawn (steps ++ [x]) = drawn steps ++ x.drawn?.toList := by
  cases hu : x.drawn? <;> simp [drawn, hu]

/-- The identifier that comes with an action. -/
def Action.fresh? : Action → Option Uuid
  | .observe o => some o.fresh
  | .markSuppressed _ => none

/-- No identifier is drawn that does not come with an action, and none twice that comes once. -/
theorem drawn_sublist (c : Correlator) (actions : List Action) :
    (drawn (c.trace actions)).Sublist (actions.filterMap Action.fresh?) := by
  induction actions generalizing c with
  | nil => exact List.Sublist.slnil
  | cons a actions ih =>
    have hdrawn : Step.drawn? ⟨c, a⟩ = a.fresh? ∨ Step.drawn? ⟨c, a⟩ = none := by
      cases a with
      | markSuppressed h => exact .inr rfl
      | observe o =>
        simp only [Step.drawn?, Action.fresh?]
        split
        · rename_i haction _
          exact .inl (by rw [Action.observe.inj haction])
        · exact .inr rfl
    rw [trace, drawn, List.filterMap_cons, List.filterMap_cons, ← drawn]
    rcases hdrawn with hsome | hnone
    · rw [hsome]
      cases a.fresh? with
      | none => exact ih _
      | some u => exact (ih _).cons_cons u
    · rw [hnone]
      cases a.fresh? with
      | none => exact ih _
      | some u => exact (ih _).cons u

variable {steps : List Step} {x : Step}

/-- A repetition changes nothing. -/
theorem Step.after_eq_of_duplicateOpen {h : ConnectionHash}
    (hresult : x.result = some (.duplicateOpen h)) : x.after = x.before := by
  obtain ⟨c, action⟩ := x
  cases action with
  | markSuppressed k => cases hresult
  | observe o => exact (of_fst_correlate_eq_duplicateOpen (Option.some.inj hresult)).2

/-- An accepted OPEN is an event under its own identifier. -/
theorem Step.Accepts.result_eq {o : Observation} (ho : x.Accepts o) :
    x.result = some (.event (o.event o.fresh)) := by
  obtain ⟨haction, hphase, hdup⟩ := accepts_iff.mp ho
  rw [Step.result, haction]
  exact congrArg some (fst_correlate_opened hphase hdup)

theorem Step.Accepts.event? {o : Observation} (ho : x.Accepts o) :
    x.event? = some (o.event o.fresh) ∧ x.drawn? = some o.fresh := by
  simp [Step.event?, drawn?, ho.result_eq, ho.action]

/-- An event has an identifier that is drawn for it, or it is the CLOSE of an OPEN that stands and
has the identifier of the OPEN. -/
theorem Recalls.of_event? (hr : Recalls x.before steps) {e : Event} (he : x.event? = some e) :
    (∃ o, x.action = .observe o ∧ e = o.event o.fresh ∧ x.drawn? = some o.fresh) ∨
      ∃ o o' since, x.action = .observe o ∧ o.transition.phase = .closed ∧
        Standing o.hash steps o' since ∧ e = o.event o'.fresh := by
  have ha := hr.answers
  generalize hresult : x.result = y at ha
  cases ha with
  | mark | duplicate | suppressed => simp [Step.event?, hresult] at he
  | opened o ho =>
    obtain ⟨hevent, hdrawn⟩ := ho.event?
    exact .inl ⟨o, ho.action, Option.some.inj (he.symm.trans hevent), hdrawn⟩
  | orphan o haction hphase =>
    have hevent : x.event? = some (o.event o.fresh) := by simp [Step.event?, hresult]
    refine .inl ⟨o, haction, Option.some.inj (he.symm.trans hevent), ?_⟩
    simp [Step.drawn?, hresult, haction]
  | paired o o' since haction hphase hs =>
    have hevent : x.event? = some (o.event o'.fresh) := by simp [Step.event?, hresult]
    exact .inr ⟨o, o', since, haction, hphase, hs, Option.some.inj (he.symm.trans hevent)⟩

/-- An OPEN that stands was an event. -/
theorem Standing.mem_events {h : ConnectionHash} {o : Observation} {since : List Step}
    (hs : Standing h steps o since) : o.event o.fresh ∈ events steps := by
  obtain ⟨front, y, rfl, ho, -⟩ := hs
  exact List.mem_filterMap.mpr ⟨y, by simp, ho.event?.1⟩

theorem Standing.hash_eq {h : ConnectionHash} {o : Observation} {since : List Step}
    (hs : Standing h steps o since) : o.hash = h := by
  obtain ⟨front, y, -, -, hhash, -⟩ := hs
  exact hhash

/-- The events of a sequence of steps share an identifier only as an OPEN and its CLOSE. -/
structure Identified (steps : List Step) : Prop where
  drawn : ∀ e ∈ events steps, e.id ∈ drawn steps
  /-- The identifier of an OPEN that stands was not given to a CLOSE yet. -/
  unpaired : ∀ h o since, Standing h steps o since → ∀ e ∈ events steps, e.id = o.fresh →
    e.phase = .opened ∧ e.hash = h
  paired : (events steps).Pairwise fun e e' =>
    e.id = e'.id → e.phase = .opened ∧ e'.phase = .closed ∧ e.hash = e'.hash

theorem identified_nil : Identified [] where
  drawn e he := by simp [events] at he
  unpaired h o since hs := absurd hs not_standing_nil
  paired := List.Pairwise.nil

namespace Identified

/-- OPENs that stand under different hashes have different identifiers. -/
theorem hash_eq_of_fresh_eq (hi : Identified steps) {h h' : ConnectionHash} {o o' : Observation}
    {since since' : List Step} (hs : Standing h steps o since) (hs' : Standing h' steps o' since')
    (hfresh : o'.fresh = o.fresh) : h' = h := by
  obtain ⟨-, hhash⟩ := hi.unpaired h o since hs _ hs'.mem_events hfresh
  exact hs'.hash_eq.symm.trans hhash

/-- A step keeps it if the identifier that it draws is a new one. -/
theorem concat (hi : Identified steps) (hr : Recalls x.before steps)
    (hfresh : (Correlator.drawn (steps ++ [x])).Nodup) : Identified (steps ++ [x]) := by
  -- an identifier that is drawn in the step is that of no event before
  have hnew {e : Event} (he : e ∈ events steps) {u : Uuid} (hu : x.drawn? = some u) :
      e.id ≠ u := by
    rintro rfl
    rw [drawn_concat, hu, List.nodup_append] at hfresh
    exact hfresh.2.2 e.id (hi.drawn e he) e.id (by simp) rfl
  refine ⟨fun e he => ?_, fun h o since hs e he hid => ?_, ?_⟩
  · rw [events_concat, List.mem_append, Option.mem_toList] at he
    rw [drawn_concat, List.mem_append]
    rcases he with he | he
    · exact .inl (hi.drawn e he)
    rcases hr.of_event? he with ⟨o, -, rfl, hu⟩ | ⟨o, o', since, -, -, hs, rfl⟩
    · exact .inr (by simp [hu, Observation.event])
    · exact .inl (hi.drawn (o'.event o'.fresh) hs.mem_events)
  · rw [events_concat, List.mem_append, Option.mem_toList] at he
    rcases standing_concat.mp hs with ⟨ho, rfl, rfl⟩ | ⟨⟨-, hclose, -⟩, s, rfl, hstand⟩
    · -- the OPEN was just accepted
      rcases he with he | he
      · exact absurd hid (hnew he ho.event?.2)
      · obtain rfl := Option.some.inj (ho.event?.1.symm.trans he)
        exact ⟨ho.phase, rfl⟩
    · rcases he with he | he
      · exact hi.unpaired h o s hstand e he hid
      rcases hr.of_event? he with ⟨o', -, rfl, hu⟩ | ⟨o', o'', s', haction, hphase, hs', rfl⟩
      · exact absurd hid.symm (hnew hstand.mem_events hu)
      · -- the step would be the CLOSE of this OPEN
        obtain rfl := hi.hash_eq_of_fresh_eq hstand hs' hid
        exact absurd ⟨o', haction, hphase, rfl⟩ hclose
  · rw [events_concat, List.pairwise_append]
    refine ⟨hi.paired, by cases x.event? <;> simp, fun e he e' he' hid => ?_⟩
    rw [Option.mem_toList] at he'
    rcases hr.of_event? he' with ⟨o, -, rfl, hu⟩ | ⟨o, o', since, -, hphase, hs, rfl⟩
    · exact absurd hid (hnew he hu)
    · obtain ⟨hopened, hhash⟩ := hi.unpaired _ o' since hs e he hid
      exact ⟨hopened, hphase, hhash⟩

end Identified

theorem identified_trace (settings : CorrelatorSettings) (actions : List Action)
    (hfresh : (drawn ((new settings).trace actions)).Nodup) :
    Identified ((new settings).trace actions) := by
  induction actions using List.reverseRecOn with
  | nil => exact identified_nil
  | append_singleton actions a ih =>
    rw [trace_concat] at hfresh ⊢
    refine (ih ?_).concat (recalls_after settings actions).1 hfresh
    rw [drawn_concat] at hfresh
    exact (List.nodup_append.mp hfresh).1

/-! ### Runs from a new correlator -/

/-- What a step does follows from the history in front of it. -/
structure Step.FollowsFrom (x : Step) (capacity window : Nat) (front : List Step) : Prop where
  /-- Remembered are the connections whose OPEN stands. -/
  remembered_iff : ∀ h, (x.before.remembered h).isSome ↔ ∃ o since, Standing h front o since
  /-- They are counted. -/
  counted : ∃ hashes : List ConnectionHash, hashes.Nodup ∧
    hashes.length = x.before.openConnections ∧ ∀ h, h ∈ hashes ↔ (x.before.remembered h).isSome
  /-- A CLOSE is paired or suppressed if the OPEN stands. -/
  close_iff : ∀ o, x.action = .observe o → o.transition.phase = .closed →
    (((∃ e, x.result = some (.pairedClose e)) ∨ x.result = some (.suppressedClose o.hash)) ↔
      ∃ o' since, Standing o.hash front o' since)
  /-- It is suppressed if the OPEN was marked since. -/
  suppressed_iff : ∀ o o' since, x.action = .observe o → o.transition.phase = .closed →
    Standing o.hash front o' since →
    (x.result = some (.suppressedClose o.hash) ↔ ∃ y ∈ since, y.action = .markSuppressed o.hash)
  /-- Else it has the identifier of the OPEN. -/
  paired : ∀ e, x.result = some (.pairedClose e) →
    ∃ o o' since, x.action = .observe o ∧ o.transition.phase = .closed ∧
      Standing o.hash front o' since ∧ e = o.event o'.fresh
  /-- A CLOSE under a hash under which no OPEN stands is an event under its own identifier. -/
  orphan : ∀ o, x.action = .observe o → o.transition.phase = .closed →
    (∀ o' since, ¬ Standing o.hash front o' since) → x.result = some (.event (o.event o.fresh))
  /-- An OPEN repeats one that stands and was observed within the duplicate window. -/
  duplicate_iff : ∀ o, x.action = .observe o → o.transition.phase = .opened →
    (x.result = some (.duplicateOpen o.hash) ↔
      ∃ o' since, Standing o.hash front o' since ∧ o.now - o'.now < window)
  /-- It changes nothing. -/
  unchanged : ∀ h, x.result = some (.duplicateOpen h) → x.after = x.before
  /-- Every other OPEN is accepted: it is an event under its own identifier, and remembered. -/
  accepted : ∀ o, x.Accepts o →
    x.result = some (.event (o.event o.fresh)) ∧ (x.after.remembered o.hash).isSome
  /-- A connection is forgotten when an OPEN is accepted under a new hash while the memory is full,
  and it is the one whose OPEN was accepted longest ago. -/
  forgets_iff : ∀ h, x.Forgets h ↔ ∃ o, x.Accepts o ∧ x.before.remembered o.hash = none ∧
    x.before.openConnections = capacity ∧ ∃ o' since, Standing h front o' since ∧
      ∀ h' o'' since', Standing h' front o'' since' → since'.length ≤ since.length
  /-- What was remembered is lost if it is closed or forgotten, and not else. -/
  lost_iff : ∀ h, (x.before.remembered h).isSome →
    (x.after.remembered h = none ↔ x.Closes h ∨ x.Forgets h)
  /-- Nothing is known about the process of a CLOSE. -/
  unresolved : ∀ e, x.event? = some e → e.phase = .closed →
    e.resolution.inode = none ∧ e.resolution.attribution = none

namespace Recalls

theorem lost_iff (hr : Recalls x.before steps) {h : ConnectionHash}
    (hsome : (x.before.remembered h).isSome) :
    x.after.remembered h = none ↔ x.Closes h ∨ x.Forgets h := by
  constructor
  · intro hnone
    by_contra hkeep
    obtain ⟨hclose, hforget⟩ := not_or.mp hkeep
    by_cases hopen : x.Opens h
    · obtain ⟨o, ho, rfl⟩ := hopen
      rw [ho.remembered hr.valid] at hnone
      cases hnone
    · rw [Step.remembered_of_not hr.valid hopen hclose hforget, Option.map_eq_none_iff] at hnone
      rw [hnone] at hsome
      cases hsome
  · rintro (hclose | hforget)
    · exact hclose.remembered
    · exact hforget.remembered hr.valid

/-- A CLOSE is suppressed or paired if the OPEN stands, depending on whether it was marked. -/
theorem result_close (hr : Recalls x.before steps) {o o' : Observation} {since : List Step}
    (haction : x.action = .observe o) (hphase : o.transition.phase = .closed)
    (hs : Standing o.hash steps o' since) :
    x.result = some (if since.any (Step.marks o.hash) then .suppressedClose o.hash
      else .pairedClose (o.event o'.fresh)) := by
  have hsome := (hr.remembered_iff _ _).mpr ⟨o', since, hs, rfl⟩
  rw [Step.result, haction]
  show some (x.before.correlate o).1 = _
  have hc := x.before.correlates o
  generalize x.before.correlate o = y at hc ⊢
  cases hc with
  | duplicate hphase' | opened hphase' => simp [hphase] at hphase'
  | suppressed s _ hs' hsup =>
    obtain rfl := Option.some.inj (hs'.symm.trans hsome)
    rw [if_pos hsup]
  | paired s _ hs' hsup =>
    obtain rfl := Option.some.inj (hs'.symm.trans hsome)
    rw [if_neg (by simpa using hsup)]
  | orphan _ hnone => simp [hsome] at hnone

/-- A CLOSE under a hash under which no OPEN stands is an event. -/
theorem result_orphan (hr : Recalls x.before steps) {o : Observation}
    (haction : x.action = .observe o) (hphase : o.transition.phase = .closed)
    (hs : ∀ o' since, ¬ Standing o.hash steps o' since) :
    x.result = some (.event (o.event o.fresh)) := by
  have hnone : x.before.remembered o.hash = none := by
    rw [← Option.not_isSome_iff_eq_none, hr.isSome_iff]
    rintro ⟨o', since, hstand⟩
    exact hs o' since hstand
  rw [Step.result, haction]
  show some (x.before.correlate o).1 = _
  have hc := x.before.correlates o
  generalize x.before.correlate o = y at hc ⊢
  cases hc with
  | duplicate hphase' | opened hphase' => simp [hphase] at hphase'
  | suppressed s _ hsome | paired s _ hsome => simp [hnone] at hsome
  | orphan => rfl

/-- An OPEN repeats one that stands and was observed within the duplicate window. -/
theorem result_eq_duplicateOpen_iff (hr : Recalls x.before steps) {o : Observation}
    (haction : x.action = .observe o) (hphase : o.transition.phase = .opened) :
    x.result = some (.duplicateOpen o.hash) ↔ ∃ o' since, Standing o.hash steps o' since ∧
      o.now - o'.now < x.before.duplicateWindow := by
  have hdup : x.result = some (.duplicateOpen o.hash) ↔
      x.before.isDuplicate o.hash o.now = true := by
    constructor
    · intro hresult
      by_contra hnot
      have ho := Step.accepts_iff.mpr ⟨haction, hphase, by simpa using hnot⟩
      exact ho.result hresult
    · intro hdup
      by_contra hresult
      have hnot := (Step.accepts_iff.mp ⟨haction, hphase, hresult⟩).2.2
      rw [hdup] at hnot
      cases hnot
  rw [hdup, isDuplicate_eq_true_iff]
  constructor
  · rintro ⟨s, hs, hlt⟩
    obtain ⟨o', since, hstand, rfl⟩ := (hr.remembered_iff _ _).mp hs
    exact ⟨o', since, hstand, hlt⟩
  · rintro ⟨o', since, hstand, hlt⟩
    exact ⟨_, (hr.remembered_iff _ _).mpr ⟨o', since, hstand, rfl⟩, hlt⟩

theorem followsFrom (hr : Recalls x.before steps) :
    x.FollowsFrom x.before.opened.capacity x.before.duplicateWindow steps where
  remembered_iff := hr.isSome_iff
  counted := by
    refine ⟨x.before.keys, hr.valid.nodup_keys, ?_, fun h => mem_keys_iff hr.valid⟩
    rw [keys, List.length_map, hr.valid.length_toList, openConnections]
  close_iff o haction hphase := by
    constructor
    · intro hresult
      by_contra hnone
      have horphan := hr.result_orphan haction hphase fun o' since hs => hnone ⟨o', since, hs⟩
      simp [horphan] at hresult
    · rintro ⟨o', since, hs⟩
      rw [hr.result_close haction hphase hs]
      cases since.any (Step.marks o.hash) with
      | true => exact .inr rfl
      | false => exact .inl ⟨_, rfl⟩
  suppressed_iff o o' since haction hphase hs := by
    have hmarks : since.any (Step.marks o.hash) = true ↔
        ∃ y ∈ since, y.action = .markSuppressed o.hash := by
      simp [Step.marks]
    rw [hr.result_close haction hphase hs, ← hmarks]
    cases since.any (Step.marks o.hash) <;> simp
  paired e he := by
    have ha := hr.answers
    rw [he] at ha
    cases ha with
    | paired o o' since haction hphase hs => exact ⟨o, o', since, haction, hphase, hs, rfl⟩
  orphan o := hr.result_orphan
  duplicate_iff o := hr.result_eq_duplicateOpen_iff
  unchanged h := Step.after_eq_of_duplicateOpen
  accepted o ho := ⟨ho.result_eq, by rw [ho.remembered hr.valid]; rfl⟩
  forgets_iff h := hr.forgets_iff
  lost_iff h := hr.lost_iff
  unresolved e he hphase := by
    rcases hr.of_event? he with ⟨o, -, rfl, -⟩ | ⟨o, o', since, -, -, -, rfl⟩ <;>
    · have hclosed : o.transition.phase = .closed := hphase
      simp [Observation.event, hclosed, Resolution.unresolved]

end Recalls

/-- If no identifier is drawn twice in a run from a new correlator, events share an identifier only
as an OPEN and its CLOSE; and every step follows from the ones in front of it. -/
theorem history_of_run (settings : CorrelatorSettings) (actions : List Action)
    (hfresh : (drawn ((new settings).trace actions)).Nodup) :
    ((events ((new settings).trace actions)).Pairwise fun e e' =>
        e.id = e'.id → e.phase = .opened ∧ e'.phase = .closed ∧ e.hash = e'.hash) ∧
      ∀ front x back, (new settings).trace actions = front ++ x :: back →
        x.FollowsFrom (max settings.capacity 1) settings.duplicateWindow.toNat front := by
  refine ⟨(identified_trace settings actions hfresh).paired, fun front x back hsteps => ?_⟩
  obtain ⟨actions₁, -, -, rfl, hbefore, -⟩ := trace_eq_append hsteps
  obtain ⟨hr, hcapacity, hwindow⟩ := recalls_after settings actions₁
  rw [← hbefore] at hr hcapacity hwindow
  have hfollows := hr.followsFrom
  rwa [hcapacity, hwindow] at hfollows

/-! ### A connection that is opened again -/

/-- What is observed of a connection. -/
def seen (phase : Phase) (fresh : Uuid) (now : Nat) : Observation :=
  ⟨⟨phase, ⟨.tcp, .v4 ⟨10, 0, 0, 1⟩, 4000, .v4 ⟨1, 1, 1, 1⟩, 443⟩⟩, .unresolved, fresh, default,
    now⟩

/-- An OPEN is marked, and a minute later the connection is opened again and closed. -/
def reopened : List Action :=
  [.observe (seen .opened ⟨0, 1⟩ 0), .markSuppressed (seen .opened ⟨0, 1⟩ 0).hash,
    .observe (seen .opened ⟨0, 2⟩ 60000), .observe (seen .closed ⟨0, 3⟩ 60001)]

/-- The CLOSE has the identifier of the second OPEN, which is not marked. -/
theorem pairedClose_of_reopened :
    (((new {}).after (reopened.take 3)).correlate (seen .closed ⟨0, 3⟩ 60001)).1 =
      .pairedClose ((seen .closed ⟨0, 3⟩ 60001).event ⟨0, 2⟩) := by
  have hrun := history_of_run {} reopened ((drawn_sublist _ _).nodup (by decide))
  have hfirst : Step.Accepts ⟨new {}, .observe (seen .opened ⟨0, 1⟩ 0)⟩ (seen .opened ⟨0, 1⟩ 0) :=
    Step.accepts_iff.mpr ⟨rfl, rfl, isDuplicate_eq_false_of_remembered (remembered_new _ _) _⟩
  have hs : Standing (seen .opened ⟨0, 2⟩ 60000).hash ((new {}).trace (reopened.take 2))
      (seen .opened ⟨0, 1⟩ 0)
      [⟨(new {}).after (reopened.take 1), .markSuppressed (seen .opened ⟨0, 1⟩ 0).hash⟩] := by
    refine ⟨[], _, rfl, hfirst, rfl, fun y hy => ?_⟩
    obtain rfl := List.mem_singleton.mp hy
    refine ⟨?_, ?_, ?_⟩
    · rintro ⟨o, ho, -⟩
      cases ho.action
    · rintro ⟨o, haction, -⟩
      cases haction
    · rintro ⟨o, s, haction, -⟩
      cases haction
  have hsecond : Step.Accepts ⟨(new {}).after (reopened.take 2),
      .observe (seen .opened ⟨0, 2⟩ 60000)⟩ (seen .opened ⟨0, 2⟩ 60000) := by
    refine ⟨rfl, rfl, fun hdup => ?_⟩
    have hopen := hrun.2 ((new {}).trace (reopened.take 2))
      ⟨(new {}).after (reopened.take 2), .observe (seen .opened ⟨0, 2⟩ 60000)⟩ [_] rfl
    obtain ⟨o, since, hs', hlt⟩ := (hopen.duplicate_iff _ rfl rfl).mp hdup
    obtain ⟨rfl, -⟩ := hs.unique hs'
    exact absurd hlt (by decide)
  have hs' : Standing (seen .closed ⟨0, 3⟩ 60001).hash ((new {}).trace (reopened.take 3))
      (seen .opened ⟨0, 2⟩ 60000) [] :=
    ⟨(new {}).trace (reopened.take 2), _, rfl, hsecond, rfl, by simp⟩
  have hclose := hrun.2 ((new {}).trace (reopened.take 3))
    ⟨(new {}).after (reopened.take 3), .observe (seen .closed ⟨0, 3⟩ 60001)⟩ [] rfl
  rcases (hclose.close_iff _ rfl rfl).mpr ⟨_, _, hs'⟩ with ⟨e, he⟩ | hsuppressed
  · obtain ⟨o, o', since, haction, -, hstand, rfl⟩ := hclose.paired e he
    obtain rfl := Action.observe.inj haction
    obtain ⟨rfl, -⟩ := hs'.unique hstand
    exact Option.some.inj he
  · have hmark := (hclose.suppressed_iff _ _ _ rfl rfl hs').mp hsuppressed
    simp at hmark

end FlowAudit.Correlator
