import FlowAudit.Proofs.Conntrack.Run

/-!
# The batch of a reading

What a reading shows is answered as one batch, whatever the order in which the map of the reading
before is gone through. In a batch no CLOSE stands in front of an OPEN
(`Sample.pairwise_transitions`), and no transition stands in it twice (`Sample.nodup_transitions`).

Over a whole run, the transitions of a connection take turns, and when nothing is pending the last
one tells whether the connection is live in the last text that was read (`transitions_of_run`).
-/

namespace FlowAudit

open Transition (phasesOf)

namespace Phase

variable {p q : Phase} {ps : List Phase}

@[simp] theorem other_other (p : Phase) : p.other.other = p := by
  cases p <;> rfl

/-- The last of phases that take turns is the one in front of the next one. -/
theorem Alternates.getLast?_getD (h : p.Alternates ps q) : ps.getLast?.getD p.other = q.other := by
  induction h with
  | nil p => rfl
  | cons _ ih =>
    rw [other_other] at ih
    rwa [List.getLast?_cons, Option.getD_some]

/-- Phases that begin with an OPEN end with one if a CLOSE comes next. -/
theorem Alternates.getLast?_eq_opened_iff (h : Alternates .opened ps q) :
    ps.getLast? = some .opened ↔ q = .closed := by
  have hlast := h.getLast?_getD
  cases hl : ps.getLast? with
  | none =>
    rw [hl] at hlast
    cases q <;> simp_all [other]
  | some r =>
    rw [hl] at hlast
    cases q <;> simp_all [other]

end Phase

/-- A transition stands in a sequence as often as its phase in those of its connection. -/
theorem Transition.count_phasesOf (t : Transition) (ts : List Transition) :
    (phasesOf t.connection ts).count t.phase = ts.count t := by
  induction ts with
  | nil => rfl
  | cons u ts ih =>
    by_cases hc : u.connection = t.connection
    · rw [phasesOf_cons_self hc, List.count_cons, List.count_cons, ih]
      congr 1
      obtain ⟨phase, c⟩ := u
      obtain ⟨phase', c'⟩ := t
      obtain rfl : c = c' := hc
      simp
    · have hne : u ≠ t := fun h => hc (by rw [h])
      rw [phasesOf_cons_of_ne hc, ih, List.count_cons_of_ne hne]

namespace Conntrack

namespace Sample

/-! ### One batch -/

/-- No connection is shown to open twice, or to close twice, between two readings. -/
theorem count_shown_le (was is : Option Bool) (phase : Phase) :
    (shown was is).count phase ≤ 1 := by
  rcases was with _ | _ | _ <;> rcases is with _ | _ | _ <;> cases phase <;> decide

theorem nodup_transitions {previous current : Sample} (hp : previous.Faithful)
    (hc : current.Faithful) : (previous.transitions current).Nodup := by
  rw [List.nodup_iff_count_le_one]
  intro t
  rw [← Transition.count_phasesOf, phasesOf_transitions hp hc]
  exact count_shown_le _ _ _

/-- Behind a CLOSE there are CLOSEs only. -/
theorem pairwise_transitions (previous current : Sample) :
    (previous.transitions current).Pairwise fun s t => s.phase = .closed → t.phase = .closed := by
  unfold transitions
  rw [List.pairwise_append]
  refine ⟨?_, ?_, ?_⟩
  · rw [List.pairwise_map]
    exact List.pairwise_of_forall fun _ _ h => by cases h
  · rw [List.pairwise_map]
    exact List.pairwise_of_forall fun _ _ _ => rfl
  · intro s hs t ht hclosed
    obtain ⟨e, -, rfl⟩ := List.mem_map.mp hs
    cases hclosed

/-- A connection is known as live when the first row for it is. -/
theorem upcoming_ofEntries_eq_closed_iff (rows : List Entry) (c : Connection) :
    upcoming (ofEntries rows).live[c]? = .closed ↔
      ∃ e, rows.find? (fun e => e.connection = c) = some e ∧ e.live = true := by
  have hlive : (ofEntries rows).live[c]? =
      (rows.find? fun e => e.connection = c).map Entry.live := by
    show (firsts ∅ rows).2[c]? = _
    rw [getElem?_firsts]
    simp
  rw [hlive, upcoming]
  cases rows.find? fun e => e.connection = c with
  | none => simp
  | some e => cases e.live <;> simp_all

end Sample

namespace Watch

/-! ### Runs -/

variable {w w' : Watch} {rounds : List Round} {steps : List Step}

/-- There is a batch for each text. -/
theorem length_batches (steps : List Step) : (batches steps).length = (texts steps).length := by
  induction steps with
  | nil => rfl
  | cons s steps ih =>
    rw [batches_cons, texts_cons, List.length_append, List.length_append, ih, Step.batch?]
    cases s.text? <;> rfl

/-- A batch is what a reading shows after another one. -/
theorem Turns.exists_of_batch? {r : Round} {a : Option Answer} {batch : List Transition}
    (h : w.Turns r a w') (hf : w.previous.Faithful)
    (hbatch : Step.batch? ⟨w, r, a, w'⟩ = some batch) :
    ∃ previous current : Sample, previous.Faithful ∧ current.Faithful ∧
      batch = previous.transitions current := by
  obtain ⟨task, hout, hread⟩ := h.exists_outcome
  rw [Step.batch?, Step.text?, hread] at hbatch
  cases hout with
  | ended | answered => simp at hbatch
  | failed cause hreading | gaveUp cause hreading =>
    simp [hreading, Except.toOption] at hbatch
  | read text rows hreading _ _ hprevious hrows hpending =>
    obtain rfl : w'.pending = batch := by simpa [hreading, Except.toOption] using hbatch
    refine ⟨_, _, hf.perm hrows, ?_, hpending⟩
    rw [hprevious]
    exact Sample.faithful_ofEntries _

theorem Run.exists_of_mem_batches (h : w.Run rounds steps w') (hf : w.previous.Faithful)
    {batch : List Transition} (hbatch : batch ∈ batches steps) :
    ∃ previous current : Sample, previous.Faithful ∧ current.Faithful ∧
      batch = previous.transitions current := by
  obtain ⟨s, hs, heq⟩ := List.mem_filterMap.mp hbatch
  obtain ⟨front, back, rfl⟩ := List.append_of_mem hs
  obtain ⟨rounds₁, -, hfront, hturn, -⟩ := h.split
  exact hturn.exists_of_batch? (hfront.faithful hf) heq

/-- The transitions that a watch answers, whatever the order in which its maps are gone through: for
every connection they take turns and begin with an OPEN; when nothing is pending, the last one is an
OPEN if and only if the first row for the connection in the last text that was read is live; and
they come in batches, one for each text, in which all OPENs stand in front of all CLOSEs and no
connection opens or closes twice. -/
theorem transitions_of_run {settings : SourceSettings} (h : (new settings).Run rounds steps w) :
    (∀ c, ∃ q, Phase.Alternates .opened (phasesOf c (transitions steps)) q) ∧
      (w.pending = [] → ∀ c, (phasesOf c (transitions steps)).getLast? = some .opened ↔
        ∃ text, (texts steps).getLast? = some text ∧
          ∃ e, (Table.parse text).entries.find? (fun e => e.connection = c) = some e ∧
            e.live = true) ∧
      transitions steps ++ w.pending = (batches steps).flatten ∧
      (batches steps).length = (texts steps).length ∧
      ∀ batch ∈ batches steps,
        (batch.Pairwise fun s t => s.phase = .closed → t.phase = .closed) ∧ batch.Nodup := by
  have hnew : (new settings).previous.Faithful := Sample.faithful_empty
  refine ⟨h.yields.alternates, fun hpending c => ?_, h.transitions_append_pending,
    length_batches steps, fun batch hbatch => ?_⟩
  · have hfirst : Phase.Alternates .opened (phasesOf c (new settings).pending)
        (Sample.upcoming (new settings).previous.live[c]?) := by
      simpa [new, Sample.empty, Sample.upcoming] using Phase.Alternates.nil .opened
    have halt := h.yields.alternates_pending hnew c hfirst
    rw [hpending, List.append_nil] at halt
    rw [halt.getLast?_eq_opened_iff, h.live_eq]
    cases (texts steps).getLast? with
    | none => simp [new, Sample.empty, Sample.upcoming]
    | some text => simp [Sample.upcoming_ofEntries_eq_closed_iff]
  · obtain ⟨previous, current, hp, hc, rfl⟩ := h.exists_of_mem_batches hnew hbatch
    exact ⟨Sample.pairwise_transitions previous current, Sample.nodup_transitions hp hc⟩

/-! ### A connection with two rows -/

/-- A round in which the table is read and nothing else happens. -/
def calm (text : String) : Round :=
  ⟨false, false, .ok text⟩

/-- A text that shows one transition is read, and the transition is answered. -/
theorem exists_run_take {text : String} {t : Transition} (hfinished : w.finished = false)
    (hpending : w.pending = [])
    (hshown : w.previous.transitions (.ofEntries (Table.parse text).entries) = [t]) :
    ∃ steps, w.Run [calm text, calm text] steps { w.take text with pending := [] } ∧
      readings steps = [.ok text] ∧ transitions steps = [t] := by
  have htake : (w.take text).pending = [t] := by
    simp only [take, hpending, hshown, List.nil_append]
  have hread : w.turn (calm text) = (none, w.take text) := by
    simp [turn, calm, hfinished, hpending]
  have hanswer : (w.take text).turn (calm text) =
      (some (.transition t), { w.take text with pending := [] }) := by
    have hfinished' : (w.take text).finished = false := hfinished
    simp [turn, calm, hfinished', htake]
  refine ⟨_, .cons (.of_turn hread) (.cons (.of_turn hanswer) (.nil _)), ?_, rfl⟩
  have htask : w.task (calm text) = .read := by simp [task, calm, hfinished, hpending]
  have htask' : (w.take text).task (calm text) = .answer := by
    have hfinished' : (w.take text).finished = false := hfinished
    simp [task, calm, hfinished', htake]
  rw [readings_cons, readings_cons]
  simp [Step.reading?, Step.task, htask, htask']
  rfl

/-- A connection that is established. -/
def established : String :=
  "ipv4 2 tcp 6 300 ESTABLISHED src=10.0.0.1 dst=1.1.1.1 sport=4000 dport=443"

/-- The connection twice, first as one that is over. -/
def contradictory : String :=
  "ipv4 2 tcp 6 100 TIME_WAIT src=10.0.0.1 dst=1.1.1.1 sport=4000 dport=443\n" ++ established

/-- The connection in these rows. -/
def dialled : Connection :=
  ⟨.tcp, .v4 ⟨10, 0, 0, 1⟩, 4000, .v4 ⟨1, 1, 1, 1⟩, 443⟩

theorem parse_established : Table.parse established = ⟨[⟨dialled, true⟩], 0⟩ := by
  decide +kernel

theorem parse_contradictory :
    Table.parse contradictory = ⟨[⟨dialled, false⟩, ⟨dialled, true⟩], 0⟩ := by
  decide +kernel

/-- The connection is read as established and then as both over and established. -/
theorem exists_run_contradictory :
    ∃ rounds steps w, (new {}).Run rounds steps w ∧ w.pending = [] ∧
      texts steps = [established, contradictory] ∧
      transitions steps = [⟨.opened, dialled⟩, ⟨.closed, dialled⟩] := by
  have hfirst : Sample.empty.transitions (.ofEntries (Table.parse established).entries) =
      [⟨.opened, dialled⟩] := by
    rw [parse_established]
    simp [Sample.transitions, Sample.empty, Sample.ofEntries, Sample.firsts, Sample.opens,
      Sample.closesUnseen]
  have hsecond : (Sample.ofEntries (Table.parse established).entries).transitions
      (.ofEntries (Table.parse contradictory).entries) = [⟨.closed, dialled⟩] := by
    rw [parse_established, parse_contradictory]
    simp [Sample.transitions, Sample.ofEntries, Sample.firsts, Sample.opens, Sample.closesUnseen,
      Sample.closes]
  obtain ⟨steps, hopen, hread, htrans⟩ := exists_run_take (w := new {}) rfl rfl hfirst
  obtain ⟨steps', hclose, hread', htrans'⟩ :=
    exists_run_take (w := { (new {}).take established with pending := [] }) rfl rfl hsecond
  refine ⟨_, _, _, hopen.append hclose, rfl, ?_, ?_⟩
  · rw [texts_eq_filterMap, readings_append, hread, hread']
    rfl
  · rw [transitions_append, htrans, htrans', List.singleton_append]

/-- Of two rows for a connection the first one counts, so its last transition is no OPEN. -/
theorem transitions_of_contradictory :
    ∃ (rounds : List Round) (steps : List Step) (w : Watch), (new {}).Run rounds steps w ∧
      w.pending = [] ∧ texts steps = [established, contradictory] ∧
      (∃ q, Phase.Alternates .opened (phasesOf dialled (transitions steps)) q) ∧
      (phasesOf dialled (transitions steps)).getLast? ≠ some .opened ∧
      transitions steps = (batches steps).flatten ∧ (batches steps).length = 2 := by
  obtain ⟨rounds, steps, w, hrun, hpending, htexts, -⟩ := exists_run_contradictory
  obtain ⟨halt, hlast, hflat, hlength, -⟩ := transitions_of_run hrun
  rw [hpending, List.append_nil] at hflat
  rw [htexts] at hlength
  refine ⟨rounds, steps, w, hrun, hpending, htexts, halt dialled, ?_, hflat, hlength⟩
  rw [Ne, hlast hpending dialled, htexts]
  rintro ⟨text, htext, e, he, hlive⟩
  obtain rfl : contradictory = text := by simpa using htext
  rw [parse_contradictory] at he
  obtain rfl : ⟨dialled, false⟩ = e := by simpa using he
  cases hlive

end Watch

end Conntrack

end FlowAudit
