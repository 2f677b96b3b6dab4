import FlowAudit.Proofs.Backoff
import FlowAudit.Proofs.Conntrack.Failure

/-!
# How long a watch waits after failures

After a reading that failed a watch waits for as long as the number of failures in a row says, and
nothing but another reading changes that (`Turns.waits`). So at any time of a run the delay is that
of the failed readings at its end (`Run.delay_eq`). Both these delays and those between the attempts
of a worker are exact (`doubles_backoff`).
-/

namespace FlowAudit.Conntrack.Watch

open Backoff (Doubles)

variable {w w' : Watch} {r : Round} {a : Option Answer} {rounds : List Round} {steps : List Step}

/-- A watch that goes on after failures waits for as long as their number says. -/
def Waits (w : Watch) : Prop :=
  w.finished = false → 0 < w.failures → w.delay = some (w.settings.backoff w.failures)

theorem waits_new (settings : SourceSettings) : (new settings).Waits :=
  fun _ hpos => absurd hpos (Nat.lt_irrefl 0)

/-- A turn that reads nothing keeps the delay or ends the watch; a reading sets the delay together
with the number of failures. -/
theorem Courses.waits {x : Option Answer × Watch} (h : w.Courses r x) (hw : w.Waits) :
    x.2.Waits := by
  cases h with
  | ended | answered => exact hw
  | stopped | interrupted => exact fun hgoes => by cases hgoes
  | read => exact fun _ hpos => absurd hpos (Nat.lt_irrefl 0)
  | failed cause =>
    unfold fail
    dsimp only
    split
    · exact fun hgoes => by cases hgoes
    · exact fun _ _ => rfl

theorem Turns.waits (h : w.Turns r a w') (hw : w.Waits) : w'.Waits := by
  obtain ⟨rows, -, hturn⟩ := h
  have hwaits := (courses { w with previous.entries := rows } r).waits hw
  rwa [hturn] at hwaits

theorem Run.waits (h : w.Run rounds steps w') (hw : w.Waits) : w'.Waits := by
  induction h with
  | nil => exact hw
  | cons hturn _ ih => exact ih (hturn.waits hw)

/-- A watch that goes on waits for as long as the failed readings at the end of its run say. -/
theorem Run.delay_eq {settings : SourceSettings} {k : Nat} (h : (new settings).Run rounds steps w)
    (hgoes : w.finished = false) (hfailures : failuresAfter 0 (readings steps) = k + 1) :
    w.delay = some (settings.backoff (k + 1)) := by
  have hcount : w.failures = k + 1 := h.failures_eq.trans hfailures
  rw [h.waits (waits_new settings) hgoes (by omega), h.settings_eq, hcount]
  rfl

/-- The delays between the attempts of a worker, and those after a first and further failures of a
watch, are what the arithmetic of natural numbers says, whatever the settings are; and they are what
a watch waits for. -/
theorem doubles_backoff (delivery : DeliverySettings) (source : SourceSettings) :
    Doubles delivery.backoffBase delivery.backoffMax delivery.backoff ∧
    Doubles source.initialBackoff source.maxBackoff (fun k => source.backoff (k + 1)) ∧
    ∀ rounds steps w, (new source).Run rounds steps w → w.finished = false →
      ∀ k, failuresAfter 0 (readings steps) = k + 1 →
        w.delay = some (source.backoff (k + 1)) :=
  ⟨Backoff.doubles_delay _ _, Backoff.doubles_delay _ _,
    fun _ _ _ h hgoes _ hfailures => h.delay_eq hgoes hfailures⟩

/-- Settings whose first delay no longer fits a word when it is doubled. -/
def patient : SourceSettings :=
  { initialBackoff := 0x8000000000000001, maxBackoff := 0xFFFFFFFFFFFFFFFE }

/-- After two failures the watch waits for the maximum. -/
theorem delay_of_patient : ∃ steps w, (new patient).Run [gone, gone] steps w ∧
    w.finished = false ∧ failuresAfter 0 (readings steps) = 2 ∧
      w.delay = some 0xFFFFFFFFFFFFFFFE := by
  have hfirst : (new patient).turn gone = (none, ((new patient).fail .notFound).2) :=
    turn_gone rfl rfl
  have hsecond := turn_gone (w := ((new patient).fail .notFound).2) rfl rfl
  have hrun := Run.cons (.of_turn hfirst) (.cons (.of_turn hsecond) (.nil _))
  have hfailures := hrun.failures_eq.symm
  refine ⟨_, _, hrun, rfl, hfailures, ?_⟩
  rw [(doubles_backoff {} patient).2.2 _ _ _ hrun rfl 1 hfailures]
  decide

end FlowAudit.Conntrack.Watch
