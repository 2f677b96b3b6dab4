import FlowAudit.Proofs.Conntrack.Stream

/-!
# Runs of a watch, turn by turn

`Watch.Run` is a run of a watch over a sequence of rounds, with the turns that it took; it answers
what `Watch.Yields` says (`Run.yields`, `Yields.exists_run`). What there is to do in a turn depends
on a few bits of the watch and the round (`Watch.task`), and `Watch.Outcome` lists what then comes
out.

The transitions that are answered, with those that are pending behind them, are the batches of the
texts that were read (`Run.transitions_append_pending`), and what the watch knows is what the last
of these texts says (`Run.live_eq`).
-/

namespace FlowAudit.Conntrack.Watch

open Transition (phasesOf)

/-! ### Turns -/

/-- What there is to do in a turn. -/
inductive Task where
  /-- To answer that the watch ended. -/
  | stop
  /-- To answer a transition that is pending. -/
  | answer
  /-- To read the table. -/
  | read
  deriving DecidableEq, Repr

/-- What there is to do in a turn. -/
def task (w : Watch) (r : Round) : Task :=
  if w.finished || r.stopBefore then .stop
  else if !w.pending.isEmpty then .answer
  else if w.delay.isSome && r.stopWaiting then .stop
  else .read

theorem finished_of_task_ne_stop {w : Watch} {r : Round} (h : w.task r ≠ .stop) :
    w.finished = false := by
  cases hfinished : w.finished with
  | false => rfl
  | true => exact absurd (by simp [task, hfinished]) h

/-- What a turn that reads no text leaves as it is. -/
structure Keeps (w w' : Watch) : Prop where
  settings : w'.settings = w.settings
  live : w'.previous.live = w.previous.live
  rows : w'.previous.entries.Perm w.previous.entries
  malformed : w'.malformed = w.malformed

/-- What can come out of a turn, by what there is to do. -/
inductive Outcome (w : Watch) (r : Round) : Task → Option Answer → Watch → Prop
  | ended {w' : Watch} (hkeeps : Keeps w w') (hpending : w'.pending = w.pending)
    (hfailures : w'.failures = w.failures) (hfinished : w'.finished = true) :
    Outcome w r .stop (some .ended) w'
  | answered {w' : Watch} (t : Transition) (hkeeps : Keeps w w')
    (hpending : w.pending = t :: w'.pending) (hfailures : w'.failures = w.failures)
    (hdelay : w'.delay = w.delay) (hfinished : w'.finished = false) :
    Outcome w r .answer (some (.transition t)) w'
  | read {w' : Watch} (text : String) (rows : List Entry) (hreading : r.reading = .ok text)
    (hpending : w.pending = []) (hsettings : w'.settings = w.settings)
    (hprevious : w'.previous = .ofEntries (Table.parse text).entries)
    (hrows : rows.Perm w.previous.entries)
    (hbatch : w'.pending = ({ w.previous with entries := rows } : Sample).transitions w'.previous)
    (hmalformed : w'.malformed = w.malformed + (Table.parse text).malformed)
    (hfailures : w'.failures = 0) (hdelay : w'.delay.isSome = true)
    (hfinished : w'.finished = false) :
    Outcome w r .read none w'
  | failed {w' : Watch} (cause : SystemError) (hreading : r.reading = .error cause)
    (hkeeps : Keeps w w') (hpending : w.pending = []) (hpending' : w'.pending = [])
    (hfailures : w'.failures = w.failures + 1)
    (hlimit : w.failures + 1 < w.settings.maxConsecutiveFailures.toNat)
    (hdelay : w'.delay.isSome = true) (hfinished : w'.finished = false) :
    Outcome w r .read none w'
  | gaveUp {w' : Watch} (cause : SystemError) (hreading : r.reading = .error cause)
    (hkeeps : Keeps w w') (hpending : w.pending = []) (hpending' : w'.pending = [])
    (hfailures : w'.failures = w.failures + 1)
    (hlimit : w.settings.maxConsecutiveFailures.toNat ≤ w.failures + 1)
    (hfinished : w'.finished = true) :
    Outcome w r .read (some (.failed (.sustained w.path (w.failures + 1) cause))) w'

/-- A turn may go through the map of the last reading in the order of the table. -/
theorem Turns.of_turn {w w' : Watch} {r : Round} {a : Option Answer} (h : w.turn r = (a, w')) :
    w.Turns r a w' :=
  ⟨w.previous.entries, .refl _, h⟩

theorem Turns.outcome {w w' : Watch} {r : Round} {a : Option Answer} (h : w.Turns r a w') :
    Outcome w r (w.task r) a w' := by
  obtain ⟨rows, hrows, hturn⟩ := h
  have hcourses := courses { w with previous.entries := rows } r
  rw [hturn] at hcourses
  have hkeeps : Keeps w { w with previous.entries := rows } := ⟨rfl, rfl, hrows, rfl⟩
  generalize hx : (a, w') = x at hcourses
  cases hcourses with
  | ended hfinished =>
    obtain ⟨rfl, rfl⟩ := Prod.mk.inj hx
    have htask : w.task r = .stop := by simp_all [task]
    rw [htask]
    exact .ended hkeeps rfl rfl hfinished
  | stopped hfinished hstop =>
    obtain ⟨rfl, rfl⟩ := Prod.mk.inj hx
    have htask : w.task r = .stop := by simp_all [task]
    rw [htask]
    exact .ended ⟨rfl, rfl, hrows, rfl⟩ rfl rfl rfl
  | answered t rest hfinished hstop hpending =>
    obtain ⟨rfl, rfl⟩ := Prod.mk.inj hx
    have htask : w.task r = .answer := by simp_all [task]
    rw [htask]
    exact .answered t ⟨rfl, rfl, hrows, rfl⟩ hpending rfl rfl hfinished
  | interrupted hfinished hstop hpending hdelay hwait =>
    obtain ⟨rfl, rfl⟩ := Prod.mk.inj hx
    have htask : w.task r = .stop := by simp_all [task]
    rw [htask]
    exact .ended ⟨rfl, rfl, hrows, rfl⟩ rfl rfl rfl
  | read text hfinished hstop hpending hwait hreading =>
    obtain ⟨rfl, rfl⟩ := Prod.mk.inj hx
    have htask : w.task r = .read := by simp_all [task]
    have hpending' : w.pending = [] := hpending
    rw [htask]
    refine .read text rows hreading hpending' rfl rfl hrows ?_ rfl rfl rfl hfinished
    simp only [take, hpending', List.nil_append]
  | failed cause hfinished hstop hpending hwait hreading =>
    have htask : w.task r = .read := by simp_all [task]
    rw [htask]
    unfold fail at hx
    dsimp only at hx
    split at hx
    · rename_i hlimit
      obtain ⟨rfl, rfl⟩ := Prod.mk.inj hx
      exact .gaveUp cause hreading ⟨rfl, rfl, hrows, rfl⟩ hpending hpending rfl hlimit rfl
    · rename_i hlimit
      obtain ⟨rfl, rfl⟩ := Prod.mk.inj hx
      exact .failed cause hreading ⟨rfl, rfl, hrows, rfl⟩ hpending hpending rfl
        (Nat.lt_of_not_le hlimit) rfl hfinished

/-! ### Runs -/

/-- A turn that a watch took. -/
structure Step where
  before : Watch
  round : Round
  answer : Option Answer
  after : Watch

namespace Step

/-- What there was to do. -/
def task (s : Step) : Task :=
  s.before.task s.round

/-- What was read, if it came to a reading. -/
def reading? (s : Step) : Option (Except SystemError String) :=
  if s.task = .read then some s.round.reading else none

/-- The text that was read. -/
def text? (s : Step) : Option String :=
  s.reading?.bind Except.toOption

/-- The transitions that a text that was read made pending. -/
def batch? (s : Step) : Option (List Transition) :=
  s.text?.map fun _ => s.after.pending

end Step

/-- A run of a watch over a sequence of rounds, with the turns taken. -/
inductive Run : Watch → List Round → List Step → Watch → Prop
  | nil (w : Watch) : Run w [] [] w
  | cons {w w' w'' : Watch} {r : Round} {rounds : List Round} {a : Option Answer}
    {steps : List Step} (hturn : w.Turns r a w') (hrest : Run w' rounds steps w'') :
    Run w (r :: rounds) (⟨w, r, a, w'⟩ :: steps) w''

/-- The readings of a run, in order. -/
def readings (steps : List Step) : List (Except SystemError String) :=
  steps.filterMap Step.reading?

/-- The texts read in a run, in order. -/
def texts (steps : List Step) : List String :=
  steps.filterMap Step.text?

/-- The transitions of each text read in a run. -/
def batches (steps : List Step) : List (List Transition) :=
  steps.filterMap Step.batch?

/-- The transitions answered in a run. -/
def transitions (steps : List Step) : List Transition :=
  steps.flatMap fun s => answered s.answer

variable {w w' : Watch} {rounds : List Round} {steps : List Step}

@[simp] theorem readings_nil : readings [] = [] := rfl

theorem readings_cons (s : Step) (steps : List Step) :
    readings (s :: steps) = s.reading?.toList ++ readings steps := by
  unfold readings
  cases h : s.reading? <;> simp [h]

theorem readings_append (front back : List Step) :
    readings (front ++ back) = readings front ++ readings back :=
  List.filterMap_append

theorem texts_cons (s : Step) (steps : List Step) :
    texts (s :: steps) = s.text?.toList ++ texts steps := by
  unfold texts
  cases h : s.text? <;> simp [h]

/-- The texts read are the readings that succeeded. -/
theorem texts_eq_filterMap (steps : List Step) :
    texts steps = (readings steps).filterMap Except.toOption :=
  (List.filterMap_filterMap ..).symm

theorem batches_cons (s : Step) (steps : List Step) :
    batches (s :: steps) = s.batch?.toList ++ batches steps := by
  unfold batches
  cases h : s.batch? <;> simp [h]

theorem transitions_cons (s : Step) (steps : List Step) :
    transitions (s :: steps) = answered s.answer ++ transitions steps :=
  List.flatMap_cons

theorem transitions_append (front back : List Step) :
    transitions (front ++ back) = transitions front ++ transitions back :=
  List.flatMap_append

/-- There is a run over every sequence of rounds. -/
theorem exists_run (w : Watch) (rounds : List Round) : ∃ steps w', w.Run rounds steps w' := by
  induction rounds generalizing w with
  | nil => exact ⟨[], w, .nil w⟩
  | cons r rounds ih =>
    obtain ⟨steps, w', hrest⟩ := ih (w.turn r).2
    exact ⟨_, w', .cons (.of_turn rfl) hrest⟩

theorem Run.yields (h : w.Run rounds steps w') : w.Yields rounds (transitions steps) w' := by
  induction h with
  | nil w => exact .nil w
  | cons hturn _ ih => exact .cons hturn ih

theorem Yields.exists_run {ts : List Transition} (h : w.Yields rounds ts w') :
    ∃ steps, w.Run rounds steps w' ∧ transitions steps = ts := by
  induction h with
  | nil w => exact ⟨[], .nil w, rfl⟩
  | cons hturn _ ih =>
    obtain ⟨steps, hrun, rfl⟩ := ih
    exact ⟨_, .cons hturn hrun, rfl⟩

theorem Run.append {w'' : Watch} {rounds' : List Round} {steps' : List Step}
    (h : w.Run rounds steps w') (h' : w'.Run rounds' steps' w'') :
    w.Run (rounds ++ rounds') (steps ++ steps') w'' := by
  induction h with
  | nil => exact h'
  | cons hturn _ ih => exact .cons hturn (ih h')

/-- A run up to a turn, the turn, and the run behind it. -/
theorem Run.split {front back : List Step} {s : Step} (h : w.Run rounds (front ++ s :: back) w') :
    ∃ rounds₁ rounds₂, w.Run rounds₁ front s.before ∧ s.before.Turns s.round s.answer s.after ∧
      s.after.Run rounds₂ back w' := by
  induction front generalizing w rounds with
  | nil =>
    cases h with
    | cons hturn hrest => exact ⟨[], _, .nil _, hturn, hrest⟩
  | cons s' front ih =>
    cases h with
    | cons hturn hrest =>
      obtain ⟨rounds₁, rounds₂, hfront, hs, hback⟩ := ih hrest
      exact ⟨_ :: rounds₁, rounds₂, .cons hturn hfront, hs, hback⟩

/-! ### What a run keeps -/

theorem Run.settings_eq (h : w.Run rounds steps w') : w'.settings = w.settings := by
  induction h with
  | nil => rfl
  | cons hturn _ ih =>
    rw [ih]
    have hout := hturn.outcome
    generalize task _ _ = task at hout
    cases hout with
    | ended hkeeps | answered _ hkeeps | failed _ _ hkeeps | gaveUp _ _ hkeeps =>
      exact hkeeps.settings
    | read _ _ _ _ hsettings => exact hsettings

/-- What comes out of a turn, and what it reads if it comes to a reading. -/
theorem Turns.exists_outcome {r : Round} {a : Option Answer} (h : w.Turns r a w') :
    ∃ task, Outcome w r task a w' ∧
      Step.reading? ⟨w, r, a, w'⟩ = if task = .read then some r.reading else none :=
  ⟨w.task r, h.outcome, rfl⟩

/-- What a turn answers, with what is pending behind it, is what was pending before, or what the
text made pending that was read in it. -/
theorem Turns.answered_append_pending {r : Round} {a : Option Answer} (h : w.Turns r a w') :
    answered a ++ w'.pending = w.pending ++ (Step.batch? ⟨w, r, a, w'⟩).toList.flatten := by
  obtain ⟨task, hout, hread⟩ := h.exists_outcome
  rw [Step.batch?, Step.text?, hread]
  cases hout with
  | ended _ hpending => simp [answered, hpending]
  | answered t _ hpending => simp [answered, hpending]
  | read text rows hreading hpending => simp [answered, hreading, hpending, Except.toOption]
  | failed cause hreading _ hpending hpending' | gaveUp cause hreading _ hpending hpending' =>
    simp [answered, hreading, hpending, hpending', Except.toOption]

/-- What is answered, with what is pending behind it, is what was pending before and the batches of
the texts read. -/
theorem Run.transitions_append_pending (h : w.Run rounds steps w') :
    transitions steps ++ w'.pending = w.pending ++ (batches steps).flatten := by
  induction h with
  | nil w => simp [transitions, batches]
  | cons hturn _ ih =>
    rw [transitions_cons, List.append_assoc, ih, ← List.append_assoc,
      hturn.answered_append_pending, batches_cons, List.flatten_append, List.append_assoc]

/-- What a watch knows after a turn is what the text says that was read in it, or what it knew. -/
theorem Turns.live_eq {r : Round} {a : Option Answer} (h : w.Turns r a w') :
    w'.previous.live = match Step.text? ⟨w, r, a, w'⟩ with
      | some text => (Sample.ofEntries (Table.parse text).entries).live
      | none => w.previous.live := by
  obtain ⟨task, hout, hread⟩ := h.exists_outcome
  rw [Step.text?, hread]
  cases hout with
  | ended hkeeps | answered _ hkeeps => exact hkeeps.live
  | read text rows hreading _ _ hprevious => simp [hreading, hprevious, Except.toOption]
  | failed cause hreading hkeeps | gaveUp cause hreading hkeeps =>
    simp [hreading, hkeeps.live, Except.toOption]

/-- What a watch knows is what the last text says that was read. -/
theorem Run.live_eq (h : w.Run rounds steps w') :
    w'.previous.live = match (texts steps).getLast? with
      | some text => (Sample.ofEntries (Table.parse text).entries).live
      | none => w.previous.live := by
  induction h with
  | nil => rfl
  | @cons w w' w'' r rounds a steps hturn _ ih =>
    rw [ih, hturn.live_eq, texts_cons]
    cases Step.text? ⟨w, r, a, w'⟩ with
    | none => rfl
    | some text =>
      rw [Option.toList_some, List.singleton_append, List.getLast?_cons]
      cases (texts steps).getLast? <;> rfl

theorem Turns.faithful {r : Round} {a : Option Answer} (h : w.Turns r a w')
    (hf : w.previous.Faithful) : w'.previous.Faithful := by
  have hout := h.outcome
  generalize task _ _ = task at hout
  cases hout with
  | ended hkeeps | answered _ hkeeps | failed _ _ hkeeps | gaveUp _ _ hkeeps =>
    have hperm := hf.perm hkeeps.rows
    rwa [← hkeeps.live] at hperm
  | read _ _ _ _ _ hprevious =>
    rw [hprevious]
    exact Sample.faithful_ofEntries _

theorem Run.faithful (h : w.Run rounds steps w') (hf : w.previous.Faithful) :
    w'.previous.Faithful := by
  induction h with
  | nil => exact hf
  | cons hturn _ ih => exact ih (hturn.faithful hf)

/-- A watch that ended answers so from then on, and stays so. -/
theorem Run.of_finished (h : w.Run rounds steps w') (hfinished : w.finished = true) :
    (∀ s ∈ steps, s.answer = some .ended) ∧ w'.finished = true := by
  induction h with
  | nil => exact ⟨by simp, hfinished⟩
  | @cons w w' w'' r rounds a steps hturn _ ih =>
    have hout := hturn.outcome
    rw [show w.task r = .stop by simp [task, hfinished]] at hout
    cases hout with
    | ended _ _ _ hfinished' =>
      obtain ⟨hanswers, hend⟩ := ih hfinished'
      rw [List.forall_mem_cons]
      exact ⟨⟨rfl, hanswers⟩, hend⟩

end FlowAudit.Conntrack.Watch
