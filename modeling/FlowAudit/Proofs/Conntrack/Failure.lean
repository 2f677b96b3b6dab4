import FlowAudit.Proofs.Conntrack.Batch

/-!
# Readings that fail

A reading that fails counts one more failure in a row and changes nothing else
(`Turns.of_reading?`), so a run is told by the readings that succeed: without the others, the same
batches are answered as far as before, up to the order of the CLOSEs in each
(`Run.sameUpToCloses_withoutFailures`). The number of failures in a row is that of the readings at
the end of the run that failed (`Run.failures_eq`); the watch gives up when it reaches the limit,
and not before (`Run.failures_lt`).

All of it, and how a watch ends, is put together in `failures_of_run`.
-/

namespace FlowAudit

/-- Two sequences of transitions that differ in the order of CLOSEs at their end only. -/
def Transition.SameUpToCloses (ts us : List Transition) : Prop :=
  ∃ front back back', ts = front ++ back ∧ us = front ++ back' ∧ back.Perm back' ∧
    ∀ t ∈ back, t.phase = .closed

open Transition (SameUpToCloses)

theorem Transition.SameUpToCloses.length_eq {ts us : List Transition} (h : SameUpToCloses ts us) :
    us.length = ts.length := by
  obtain ⟨front, back, back', rfl, rfl, hperm, -⟩ := h
  rw [List.length_append, List.length_append, hperm.length_eq]

namespace Conntrack

/-- The order of the rows of the reading before shows in the order of the CLOSEs only. -/
theorem Sample.sameUpToCloses_transitions {previous previous' : Sample} (current : Sample)
    (hlive : previous'.live = previous.live)
    (hrows : previous'.entries.Perm previous.entries) :
    SameUpToCloses (previous.transitions current) (previous'.transitions current) := by
  obtain ⟨rows, live⟩ := previous
  obtain ⟨rows', live'⟩ := previous'
  obtain rfl : live' = live := hlive
  refine ⟨_, _, _, rfl, rfl, ?_, ?_⟩
  · exact ((List.Perm.refl _).append (hrows.symm.filter _)).map _
  · intro t ht
    obtain ⟨e, -, rfl⟩ := List.mem_map.mp ht
    rfl

/-- A round as it is met when the reading in front of it is left out: who asked the watch to stop
while it waited to try again has asked for it when the turn starts. -/
def Round.joined (failed : Bool) (r : Round) : Round :=
  { r with stopBefore := r.stopBefore || (failed && r.stopWaiting) }

namespace Watch

variable {w w' v v' : Watch} {r r' : Round} {a a' : Option Answer} {rounds : List Round}
  {steps : List Step}

/-! ### Counting -/

/-- The number of failures in a row after a sequence of readings, from the number before it. -/
def failuresAfter (n : Nat) (readings : List (Except SystemError String)) : Nat :=
  readings.foldl (fun n reading => match reading with
    | .ok _ => 0
    | .error _ => n + 1) n

/-- There are so many failures in a row when so many readings at the end failed. -/
theorem le_failuresAfter_iff (m : Nat) (readings : List (Except SystemError String)) :
    m ≤ failuresAfter 0 readings ↔
      ∃ causes : List SystemError, causes.length = m ∧ causes.map Except.error <:+ readings := by
  induction readings using List.reverseRecOn generalizing m with
  | nil =>
    constructor
    · intro hm
      exact ⟨[], by simpa using (Nat.le_zero.mp hm).symm, List.suffix_refl _⟩
    · rintro ⟨causes, rfl, hsuffix⟩
      simp [List.map_eq_nil_iff.mp (List.suffix_nil.mp hsuffix)]
  | append_singleton readings reading ih =>
    rw [failuresAfter, List.foldl_append, ← failuresAfter]
    cases reading with
    | ok text =>
      constructor
      · intro hm
        exact ⟨[], by simpa using (Nat.le_zero.mp hm).symm, List.nil_suffix⟩
      · rintro ⟨causes, rfl, hsuffix⟩
        rcases List.suffix_concat_iff.mp hsuffix with hnil | ⟨front, hfront, -⟩
        · simp [List.map_eq_nil_iff.mp hnil]
        · -- the last of the failures would be the reading that succeeded
          have hmem : Except.ok text ∈ causes.map Except.error := by rw [hfront]; simp
          simp at hmem
    | error cause =>
      show m ≤ failuresAfter 0 readings + 1 ↔ _
      constructor
      · intro hm
        cases m with
        | zero => exact ⟨[], rfl, List.nil_suffix⟩
        | succ m =>
          obtain ⟨causes, hlength, hsuffix⟩ := (ih m).mp (Nat.le_of_succ_le_succ hm)
          refine ⟨causes ++ [cause], by simp [hlength], ?_⟩
          rw [List.map_append]
          exact List.suffix_concat_iff.mpr (.inr ⟨_, rfl, hsuffix⟩)
      · rintro ⟨causes, rfl, hsuffix⟩
        rcases List.suffix_concat_iff.mp hsuffix with hnil | ⟨front, hfront, hsuffix'⟩
        · simp [List.map_eq_nil_iff.mp hnil]
        · obtain ⟨causes', last, rfl, rfl, hlast⟩ := List.map_eq_append_iff.mp hfront
          have hone : last.length = 1 := by simpa using congrArg List.length hlast
          rw [List.length_append, hone]
          exact Nat.succ_le_succ ((ih _).mpr ⟨causes', rfl, hsuffix'⟩)

/-- A turn counts its reading if it comes to one. -/
theorem Turns.failures_eq (h : w.Turns r a w') :
    w'.failures = failuresAfter w.failures (Step.reading? ⟨w, r, a, w'⟩).toList := by
  obtain ⟨task, hout, hread⟩ := h.exists_outcome
  rw [hread]
  cases hout with
  | ended _ _ hfailures | answered _ _ _ hfailures => exact hfailures
  | read text _ hreading _ _ _ _ _ _ hfailures => simp [hreading, hfailures, failuresAfter]
  | failed cause hreading _ _ _ hfailures | gaveUp cause hreading _ _ _ hfailures =>
    simp [hreading, hfailures, failuresAfter]

theorem Run.failures_eq (h : w.Run rounds steps w') :
    w'.failures = failuresAfter w.failures (readings steps) := by
  induction h with
  | nil => rfl
  | cons hturn _ ih =>
    rw [ih, hturn.failures_eq, readings_cons, failuresAfter, failuresAfter, failuresAfter,
      List.foldl_append]

/-- As long as a watch goes on, there were fewer failures in a row than the limit. -/
theorem Run.failures_lt (h : w.Run rounds steps w')
    (hlt : w.failures < w.settings.maxConsecutiveFailures.toNat) (hfinished : w'.finished = false) :
    w'.failures < w.settings.maxConsecutiveFailures.toNat := by
  induction h with
  | nil => exact hlt
  | @cons w w' w'' r rounds a steps hturn hrest ih =>
    have hout := hturn.outcome
    generalize w.task r = task at hout
    cases hout with
    | ended _ _ _ hended | gaveUp _ _ _ _ _ _ _ hended =>
      -- a watch that ended does not go on
      rw [(hrest.of_finished hended).2] at hfinished
      cases hfinished
    | answered _ hkeeps _ hfailures =>
      rw [← hkeeps.settings]
      exact ih (by rwa [hkeeps.settings, hfailures]) hfinished
    | read _ _ _ _ hsettings _ _ _ _ hfailures =>
      rw [← hsettings]
      exact ih (by rw [hsettings, hfailures]; omega) hfinished
    | failed _ _ hkeeps _ _ hfailures hlimit =>
      rw [← hkeeps.settings]
      exact ih (by rwa [hkeeps.settings, hfailures]) hfinished

/-! ### Leaving failures out -/

/-- What was the matter with a reading that failed. -/
def Step.cause? (s : Step) : Option SystemError :=
  match s.reading? with
  | some (.error cause) => some cause
  | _ => none

/-- The rounds of a run without those whose reading failed; `failed` says whether the one in front
was such a round. -/
def withoutFailures (failed : Bool) : List Step → List Round
  | [] => []
  | s :: steps =>
    if s.cause?.isSome then withoutFailures true steps
    else s.round.joined failed :: withoutFailures false steps

/-- Two watches that differ in their failures only, and in the order of what is pending. -/
structure Alike (failed : Bool) (w v : Watch) : Prop where
  settings : v.settings = w.settings
  live : v.previous.live = w.previous.live
  rows : v.previous.entries.Perm w.previous.entries
  pending : v.pending.length = w.pending.length
  malformed : v.malformed = w.malformed
  finished : v.finished = w.finished
  /-- After a failure the first watch waits, with nothing pending. -/
  delay : w.finished = false →
    if failed then w.pending = [] ∧ w.delay.isSome = true else v.delay.isSome = w.delay.isSome

theorem Alike.task_eq {failed : Bool} (h : Alike failed w v) (r : Round) :
    v.task (r.joined failed) = w.task r := by
  have hempty : v.pending.isEmpty = w.pending.isEmpty := by
    rw [Bool.eq_iff_iff, List.isEmpty_iff_length_eq_zero, List.isEmpty_iff_length_eq_zero,
      h.pending]
  unfold task
  rw [h.finished, hempty]
  cases hfinished : w.finished with
  | true => rfl
  | false =>
    have hdelay := h.delay hfinished
    cases failed with
    | false =>
      rw [if_neg Bool.false_ne_true] at hdelay
      simp [Round.joined, hdelay]
    | true =>
      rw [if_pos rfl] at hdelay
      cases hwait : r.stopWaiting <;> simp [Round.joined, hdelay, hwait]

/-- Watches that are alike stay so while they read no text. -/
theorem Alike.keeps {failed failed' : Bool} (h : Alike failed w v) (hw : Keeps w w')
    (hv : Keeps v v') (hpending : v'.pending.length = w'.pending.length)
    (hfinished : v'.finished = w'.finished)
    (hdelay : w'.finished = false →
      if failed' then w'.pending = [] ∧ w'.delay.isSome = true
      else v'.delay.isSome = w'.delay.isSome) :
    Alike failed' w' v' where
  settings := by rw [hv.settings, h.settings, hw.settings]
  live := by rw [hv.live, h.live, hw.live]
  rows := (hv.rows.trans h.rows).trans hw.rows.symm
  pending := hpending
  malformed := by rw [hv.malformed, h.malformed, hw.malformed]
  finished := hfinished
  delay := hdelay

/-- A reading that fails leaves watches alike. -/
theorem Alike.failed {failed : Bool} {cause : SystemError} (h : Alike failed w v)
    (hw : w.Turns r a w') (hcause : Step.cause? ⟨w, r, a, w'⟩ = some cause)
    (hanswer : ∀ e, a ≠ some (.failed e)) :
    Alike true w' v ∧ answered a = [] ∧ Step.batch? ⟨w, r, a, w'⟩ = none ∧
      Step.reading? ⟨w, r, a, w'⟩ = some (.error cause) := by
  have hout : Outcome w r (Step.task ⟨w, r, a, w'⟩) a w' := hw.outcome
  have hv : Keeps v v := ⟨rfl, rfl, .refl _, rfl⟩
  unfold Step.cause? Step.reading? at hcause
  unfold Step.batch? Step.text? Step.reading?
  generalize htask : Step.task _ = task at hout hcause ⊢
  cases hout with
  | ended | answered => simp at hcause
  | read text _ hreading => simp [hreading] at hcause
  | gaveUp => exact absurd rfl (hanswer _)
  | failed cause' hreading hkeeps hpending hpending' _ _ hdelay hfinished =>
    obtain rfl : cause' = cause := by simpa [hreading] using hcause
    have hlength := h.pending
    rw [hpending] at hlength
    have hgoes : w.finished = false := by
      refine finished_of_task_ne_stop (r := r) ?_
      rw [show w.task r = .read from htask]
      decide
    refine ⟨h.keeps hkeeps hv ?_ ?_ ?_, rfl, ?_, ?_⟩
    · rw [hlength, hpending']
    · rw [h.finished, hgoes, hfinished]
    · exact fun _ => by rw [if_pos rfl]; exact ⟨hpending', hdelay⟩
    · simp [hreading, Except.toOption]
    · simp [hreading]

/-- Turns of watches that are alike, over a round whose reading does not fail, are alike. -/
theorem Alike.turns {failed : Bool} (h : Alike failed w v) (hw : w.Turns r a w')
    (hv : v.Turns (r.joined failed) a' v') (hcause : Step.cause? ⟨w, r, a, w'⟩ = none) :
    Alike false w' v' ∧
      Step.reading? ⟨v, r.joined failed, a', v'⟩ = Step.reading? ⟨w, r, a, w'⟩ ∧
      (answered a').length = (answered a).length ∧
      List.Forall₂ SameUpToCloses (Step.batch? ⟨w, r, a, w'⟩).toList
        (Step.batch? ⟨v, r.joined failed, a', v'⟩).toList := by
  have hout : Outcome w r (Step.task ⟨w, r, a, w'⟩) a w' := hw.outcome
  have hout' : Outcome v (r.joined failed) (Step.task ⟨v, r.joined failed, a', v'⟩) a' v' :=
    hv.outcome
  have htask : Step.task ⟨v, r.joined failed, a', v'⟩ = Step.task ⟨w, r, a, w'⟩ := h.task_eq r
  unfold Step.cause? Step.reading? at hcause
  unfold Step.batch? Step.text? Step.reading?
  rw [htask] at hout' ⊢
  generalize htask' : Step.task _ = task at hout hout' hcause ⊢
  cases hout with
  | ended hkeeps hpending _ hfinished =>
    cases hout' with
    | ended hkeeps' hpending' _ hfinished' =>
      refine ⟨h.keeps hkeeps hkeeps' ?_ ?_ ?_, rfl, rfl, .nil⟩
      · rw [hpending', h.pending, hpending]
      · rw [hfinished', hfinished]
      · exact fun hgoes => by simp [hfinished] at hgoes
  | answered t hkeeps hpending _ hdelay hfinished =>
    cases hout' with
    | answered t' hkeeps' hpending' _ hdelay' hfinished' =>
      have hlength := h.pending
      rw [hpending, hpending', List.length_cons, List.length_cons] at hlength
      have hgoes : w.finished = false := by
        refine finished_of_task_ne_stop (r := r) ?_
        rw [show w.task r = .answer from htask']
        decide
      refine ⟨h.keeps hkeeps hkeeps' (Nat.succ.inj hlength) ?_ fun _ => ?_, rfl, rfl, .nil⟩
      · rw [hfinished', hfinished]
      · have hwait := h.delay hgoes
        -- nothing is pending after a failure
        cases failed with
        | true => simp [hpending] at hwait
        | false => simpa [hdelay, hdelay'] using hwait
  | read text rows hreading hpending hsettings hprevious hrows hbatch hmalformed _ hdelay
      hfinished =>
    cases hout' with
    | failed cause hreading' | gaveUp cause hreading' =>
      simp [Round.joined, hreading] at hreading'
    | read text' rows' hreading' hpending' hsettings' hprevious' hrows' hbatch' hmalformed' _
        hdelay' hfinished' =>
      obtain rfl : text = text' := by simpa [Round.joined, hreading] using hreading'
      have hperm := (hrows'.trans h.rows).trans hrows.symm
      have hsame : SameUpToCloses w'.pending v'.pending := by
        rw [hbatch, hbatch', hprevious', ← hprevious]
        exact Sample.sameUpToCloses_transitions w'.previous h.live hperm
      have hread : r.reading.toOption = some text := by rw [hreading]; rfl
      refine ⟨?_, rfl, rfl, ?_⟩
      · refine ⟨?_, ?_, ?_, hsame.length_eq, ?_, ?_, ?_⟩
        · rw [hsettings', h.settings, hsettings]
        · rw [hprevious', hprevious]
        · rw [hprevious', hprevious]
        · rw [hmalformed', h.malformed, hmalformed]
        · rw [hfinished', hfinished]
        · simp [hdelay, hdelay']
      · simpa [Round.joined, hread] using hsame
  | failed cause hreading | gaveUp cause hreading => simp [hreading] at hcause

/-- A run is told by its readings that succeed. Over its rounds without the other ones, the batches
are the same up to the order of their CLOSEs, as many transitions of them are answered, and as many
rows are malformed. -/
theorem Run.sameUpToCloses_withoutFailures {failed : Bool} {steps' : List Step} {v' : Watch}
    (h : w.Run rounds steps w') (hanswer : ∀ s ∈ steps, ∀ e, s.answer ≠ some (.failed e))
    (halike : Alike failed w v) (h' : v.Run (withoutFailures failed steps) steps' v') :
    List.Forall₂ SameUpToCloses (batches steps) (batches steps') ∧
      (transitions steps').length = (transitions steps).length ∧
      readings steps' = (readings steps).filter Except.isOk ∧ v'.malformed = w'.malformed := by
  induction h generalizing failed v steps' with
  | nil =>
    cases h' with
    | nil => exact ⟨.nil, rfl, rfl, halike.malformed⟩
  | @cons w w' w'' r rounds a steps hturn _ ih =>
    rw [List.forall_mem_cons] at hanswer
    rw [withoutFailures] at h'
    rw [batches_cons, transitions_cons, readings_cons]
    cases hcause : Step.cause? ⟨w, r, a, w'⟩ with
    | some cause =>
      rw [if_pos (by rw [hcause]; rfl)] at h'
      obtain ⟨halike', hnone, hbatch, hreading⟩ := halike.failed hturn hcause hanswer.1
      obtain ⟨hbatches, hlength, hreadings, hmalformed⟩ := ih hanswer.2 halike' h'
      rw [hnone, hbatch, hreading]
      exact ⟨hbatches, hlength, hreadings, hmalformed⟩
    | none =>
      rw [if_neg (by rw [hcause]; exact Bool.false_ne_true)] at h'
      cases h' with
      | cons hturn' hrest' =>
        obtain ⟨halike', hreading, hanswered, hbatch⟩ := halike.turns hturn hturn' hcause
        obtain ⟨hbatches, hlength, hreadings, hmalformed⟩ := ih hanswer.2 halike' hrest'
        rw [batches_cons, transitions_cons, readings_cons, List.length_append, List.length_append,
          hreading, List.filter_append, hreadings, hanswered, hlength]
        refine ⟨List.rel_append hbatch hbatches, rfl, ?_, hmalformed⟩
        -- what is read here did not fail
        congr 1
        unfold Step.cause? at hcause
        generalize Step.reading? _ = reading at hcause ⊢
        rcases reading with _ | _ | text
        · rfl
        · cases hcause
        · rfl

/-! ### Giving up and ending -/

/-- A watch that ended answers so to every call, and stays as it is. -/
theorem next_of_finished (hfinished : w.finished = true) (r : Round) (rest : List Round) :
    w.next (r :: rest) = (some .ended, w, rest) := by
  simp [next, turn, hfinished]

/-- A call made while the watch is asked to stop answers that it ended. -/
theorem next_of_stopBefore (hstop : r.stopBefore = true) (rest : List Round) :
    (w.next (r :: rest)).1 = some .ended := by
  cases hfinished : w.finished <;> simp [next, turn, hfinished, hstop]

/-- A turn gives up when its reading fails and there are as many failures in a row as the limit. -/
theorem Turns.exists_failed_iff (h : w.Turns r a w') :
    (∃ e, a = some (.failed e)) ↔ (Step.cause? ⟨w, r, a, w'⟩).isSome ∧
      w.settings.maxConsecutiveFailures.toNat ≤ w'.failures := by
  obtain ⟨task, hout, hread⟩ := h.exists_outcome
  rw [Step.cause?, hread]
  cases hout with
  | ended | answered => simp
  | read text _ hreading => simp [hreading]
  | failed cause hreading _ _ _ hfailures hlimit => simp [hreading, hfailures]; omega
  | gaveUp cause hreading _ _ _ hfailures hlimit => simp [hreading, hfailures]; omega

/-- A watch that gives up ends, and answers with the number of failures. -/
theorem Turns.of_failed {e : WatchError} (h : w.Turns r a w') (ha : a = some (.failed e)) :
    (∃ cause, Step.reading? ⟨w, r, a, w'⟩ = some (.error cause) ∧
      e = .sustained w.path (w.failures + 1) cause) ∧
      w.pending = [] ∧ w.settings.maxConsecutiveFailures.toNat ≤ w.failures + 1 := by
  obtain ⟨task, hout, hread⟩ := h.exists_outcome
  rw [hread]
  cases hout with
  | ended | answered | read | failed => cases ha
  | gaveUp cause hreading _ hpending _ _ hlimit =>
    cases ha
    exact ⟨⟨cause, by simp [hreading], rfl⟩, hpending, hlimit⟩

/-- A turn that answers anything but a transition is the last one. -/
theorem Turns.finished (h : w.Turns r a w') (ha : a = some .ended ∨ ∃ e, a = some (.failed e)) :
    w'.finished = true := by
  have hout := h.outcome
  generalize w.task r = task at hout
  cases hout with
  | ended _ _ _ hfinished | gaveUp _ _ _ _ _ _ _ hfinished => exact hfinished
  | answered | read | failed => simp at ha

theorem Turns.answer_of_stopBefore (h : w.Turns r a w') (hstop : r.stopBefore = true) :
    a = some .ended := by
  have hout := h.outcome
  rw [show w.task r = .stop by simp [task, hstop]] at hout
  cases hout with
  | ended => rfl

/-- A reading that fails changes nothing of what is known, pending or counted as malformed; one that
succeeds ends the row of failures. -/
theorem Turns.of_reading? (h : w.Turns r a w') :
    (∀ cause, Step.reading? ⟨w, r, a, w'⟩ = some (.error cause) →
      Keeps w w' ∧ w'.pending = w.pending) ∧
      ∀ text, Step.reading? ⟨w, r, a, w'⟩ = some (.ok text) → w'.failures = 0 := by
  obtain ⟨task, hout, hread⟩ := h.exists_outcome
  rw [hread]
  cases hout with
  | ended | answered => simp
  | read text _ hreading _ _ _ _ _ _ hfailures => simp [hreading, hfailures]
  | failed cause hreading hkeeps hpending hpending'
  | gaveUp cause hreading hkeeps hpending hpending' =>
    simp [hreading, hkeeps, hpending, hpending']

/-- A watch gives up in a turn if and only if it comes to a reading and as many readings in a row
failed as its limit says. -/
theorem Run.exists_failed_iff {settings : SourceSettings} {front back : List Step} {s : Step}
    (h : (new settings).Run rounds (front ++ s :: back) w)
    (hlimit : 1 ≤ settings.maxConsecutiveFailures.toNat) :
    (∃ e, s.answer = some (.failed e)) ↔
      s.reading?.isSome ∧ ∃ causes : List SystemError,
        causes.length = settings.maxConsecutiveFailures.toNat ∧
          causes.map Except.error <:+ readings (front ++ [s]) := by
  obtain ⟨rounds₁, rounds₂, hfront, hturn, -⟩ := h.split
  have hfailures : s.after.failures = failuresAfter 0 (readings (front ++ [s])) :=
    (hfront.append (.cons hturn (.nil _))).failures_eq
  rw [← le_failuresAfter_iff, ← hfailures, hturn.exists_failed_iff, hfront.settings_eq]
  refine and_congr_left fun hle => ?_
  rw [Step.cause?]
  cases hreading : s.reading? with
  | none => simp
  | some reading =>
    cases reading with
    | error cause => simp
    | ok text =>
      -- the failures in a row would have come to an end
      have hzero := hturn.of_reading?.2 text hreading
      have hle' : settings.maxConsecutiveFailures.toNat ≤ s.after.failures := hle
      omega

/-- While fewer readings in a row fail than the limit says, the watch does not give up. -/
theorem Run.answer_ne_failed {settings : SourceSettings} (h : (new settings).Run rounds steps w)
    (hlimit : 1 ≤ settings.maxConsecutiveFailures.toNat)
    (hfew : ∀ causes : List SystemError, causes.map Except.error <:+: readings steps →
      causes.length < settings.maxConsecutiveFailures.toNat) :
    ∀ s ∈ steps, ∀ e, s.answer ≠ some (.failed e) := by
  intro s hs e he
  obtain ⟨front, back, rfl⟩ := List.append_of_mem hs
  obtain ⟨-, causes, hlength, hsuffix⟩ := (h.exists_failed_iff hlimit).mp ⟨e, he⟩
  have hprefix : readings (front ++ [s]) <+: readings (front ++ s :: back) :=
    ⟨readings back, by rw [← readings_append, List.append_assoc, List.singleton_append]⟩
  have hlt := hfew causes (hsuffix.isInfix.trans hprefix.isInfix)
  omega

theorem alike_new (settings : SourceSettings) : Alike false (new settings) (new settings) where
  settings := rfl
  live := rfl
  rows := .refl _
  pending := rfl
  malformed := rfl
  finished := rfl
  delay _ := rfl

/-- How a watch whose limit is not zero bears readings that fail and requests to stop, whatever the
order in which its maps are gone through.

A reading that fails changes nothing of what is known, pending or counted as malformed, and one that
succeeds ends the row of failures. While fewer readings in a row fail than the limit says, the same
transitions are answered as over the rounds without them, up to the order of the CLOSEs in a batch.
The watch gives up exactly when as many readings in a row failed as the limit says; it answers with
this number, and all transitions of the texts before have been answered. When it has ended or given
up it answers every later call that it ended, and so it does a call that is made while it is asked
to stop. -/
theorem failures_of_run {settings : SourceSettings}
    (hlimit : 1 ≤ settings.maxConsecutiveFailures.toNat)
    (h : (new settings).Run rounds steps w) :
    (∀ s ∈ steps,
      (∀ cause, s.reading? = some (.error cause) →
        Keeps s.before s.after ∧ s.after.pending = s.before.pending) ∧
      ∀ text, s.reading? = some (.ok text) → s.after.failures = 0) ∧
    ((∀ causes : List SystemError, causes.map Except.error <:+: readings steps →
        causes.length < settings.maxConsecutiveFailures.toNat) →
      ∀ steps' w', (new settings).Run (withoutFailures false steps) steps' w' →
        readings steps' = (readings steps).filter Except.isOk ∧
        List.Forall₂ SameUpToCloses (batches steps) (batches steps') ∧
        (transitions steps').length = (transitions steps).length ∧
        transitions steps ++ w.pending = (batches steps).flatten ∧
        transitions steps' ++ w'.pending = (batches steps').flatten ∧
        w'.malformed = w.malformed) ∧
    ∀ front s back, steps = front ++ s :: back →
      ((∃ e, s.answer = some (.failed e)) ↔
        s.reading?.isSome ∧ ∃ causes : List SystemError,
          causes.length = settings.maxConsecutiveFailures.toNat ∧
            causes.map Except.error <:+ readings (front ++ [s])) ∧
      (∀ e, s.answer = some (.failed e) →
        (∃ cause, s.reading? = some (.error cause) ∧
          e = .sustained (tablePath settings.procRoot) settings.maxConsecutiveFailures.toNat
            cause) ∧
        transitions front = (batches front).flatten) ∧
      ((s.answer = some .ended ∨ ∃ e, s.answer = some (.failed e)) →
        (∀ s' ∈ back, s'.answer = some .ended) ∧
        ∀ r rest, s.after.next (r :: rest) = (some .ended, s.after, rest)) ∧
      (s.round.stopBefore = true → s.answer = some .ended) ∧
      ∀ r rest, r.stopBefore = true → (s.before.next (r :: rest)).1 = some .ended := by
  refine ⟨fun s hs => ?_, fun hfew steps' w' h' => ?_, fun front s back hsteps => ?_⟩
  · obtain ⟨front, back, rfl⟩ := List.append_of_mem hs
    obtain ⟨-, -, -, hturn, -⟩ := h.split
    exact hturn.of_reading?
  · obtain ⟨hbatches, hlength, hreadings, hmalformed⟩ :=
      h.sameUpToCloses_withoutFailures (h.answer_ne_failed hlimit hfew) (alike_new settings) h'
    exact ⟨hreadings, hbatches, hlength, h.transitions_append_pending,
      h'.transitions_append_pending, hmalformed⟩
  · subst hsteps
    obtain ⟨rounds₁, rounds₂, hfront, hturn, hback⟩ := h.split
    refine ⟨h.exists_failed_iff hlimit, fun e he => ?_, fun hend => ?_, hturn.answer_of_stopBefore,
      fun r rest hstop => next_of_stopBefore hstop rest⟩
    · obtain ⟨⟨cause, hreading, rfl⟩, hpending, hle⟩ := hturn.of_failed he
      have hsettings := hfront.settings_eq
      -- it gave up as soon as it could
      have hgoes : s.before.finished = false := by
        refine finished_of_task_ne_stop (r := s.round) fun htask => ?_
        simp [Step.reading?, Step.task, htask] at hreading
      have hlt := hfront.failures_lt (Nat.lt_of_lt_of_le Nat.zero_lt_one hlimit) hgoes
      rw [hsettings] at hle
      have hcount : s.before.failures + 1 = settings.maxConsecutiveFailures.toNat :=
        Nat.le_antisymm hlt hle
      have hflat := hfront.transitions_append_pending
      rw [hpending, List.append_nil] at hflat
      refine ⟨⟨cause, hreading, ?_⟩, hflat⟩
      rw [hcount, path, hsettings]
      rfl
    · have hfinished := hturn.finished hend
      exact ⟨(hback.of_finished hfinished).1, next_of_finished hfinished⟩

/-! ### A table that goes away -/

/-- A round in which the table is gone. -/
def gone : Round :=
  ⟨false, false, .error .notFound⟩

theorem turn_gone (hfinished : w.finished = false) (hpending : w.pending = []) :
    w.turn gone = w.fail .notFound := by
  simp [turn, gone, hfinished, hpending]

theorem reading?_gone (hfinished : w.finished = false) (hpending : w.pending = [])
    (a : Option Answer) (w' : Watch) :
    Step.reading? ⟨w, gone, a, w'⟩ = some (.error .notFound) := by
  simp [Step.reading?, Step.task, task, gone, hfinished, hpending]

/-- A watch that gives up after two failures reads and answers a connection, and then the table goes
away. -/
theorem exists_run_gone :
    ∃ front s back w, (new { maxConsecutiveFailures := 2 }).Run
        [calm established, calm established, gone, gone, calm established]
        (front ++ s :: back) w ∧
      readings front = [.ok established, .error .notFound] ∧
      s.reading? = some (.error .notFound) ∧ transitions front = [⟨.opened, dialled⟩] ∧
      back.length = 1 := by
  have hshown : Sample.empty.transitions (.ofEntries (Table.parse established).entries) =
      [⟨.opened, dialled⟩] := by
    rw [parse_established]
    simp [Sample.transitions, Sample.empty, Sample.ofEntries, Sample.firsts, Sample.opens,
      Sample.closesUnseen]
  obtain ⟨steps, hread, hreadings, htrans⟩ :=
    exists_run_take (w := new { maxConsecutiveFailures := 2 }) rfl rfl hshown
  set w₁ : Watch := { (new { maxConsecutiveFailures := 2 }).take established with pending := [] }
    with hw₁
  have hfirst : w₁.turn gone = (none, (w₁.fail .notFound).2) := turn_gone rfl rfl
  have hsecond := turn_gone (w := (w₁.fail .notFound).2) rfl rfl
  have hlast : ((w₁.fail .notFound).2.fail .notFound).2.turn (calm established) =
      (some .ended, ((w₁.fail .notFound).2.fail .notFound).2) := rfl
  have htail := Run.cons (.of_turn hfirst)
    (.cons (.of_turn hsecond) (.cons (.of_turn hlast) (.nil _)))
  have hrun := hread.append htail
  refine ⟨steps ++ [_], _, [_], _, by rw [List.append_assoc]; exact hrun, ?_, ?_, ?_, rfl⟩
  · rw [readings_append, hreadings, readings_cons, reading?_gone rfl rfl]
    rfl
  · exact reading?_gone rfl rfl _ _
  · rw [transitions_append, htrans]
    rfl

/-- The watch gives up at the second failure, after the transition was answered, and ends. -/
theorem failures_of_gone :
    ∃ front s back w, (new { maxConsecutiveFailures := 2 }).Run
        [calm established, calm established, gone, gone, calm established]
        (front ++ s :: back) w ∧
      s.answer = some (.failed (.sustained (tablePath defaultProcRoot) 2 .notFound)) ∧
      transitions front = [⟨.opened, dialled⟩] ∧ back.length = 1 ∧
      ∀ s' ∈ back, s'.answer = some .ended := by
  obtain ⟨front, s, back, w, hrun, hreadings, hreading, htrans, hback⟩ := exists_run_gone
  obtain ⟨hfailed, hanswer, hend, -⟩ := (failures_of_run (by decide) hrun).2.2 front s back rfl
  have hlast : ∃ e, s.answer = some (.failed e) := by
    refine hfailed.mpr ⟨by rw [hreading]; rfl, [.notFound, .notFound], rfl, ?_⟩
    rw [readings_append, hreadings, readings_cons, hreading]
    exact ⟨[.ok established], rfl⟩
  obtain ⟨e, he⟩ := hlast
  obtain ⟨⟨cause, hcause, rfl⟩, -⟩ := hanswer e he
  obtain rfl : SystemError.notFound = cause := by simpa [hreading] using hcause
  exact ⟨front, s, back, w, hrun, he, htrans, hback, (hend (.inr ⟨_, he⟩)).1⟩

end Watch

end Conntrack

end FlowAudit
