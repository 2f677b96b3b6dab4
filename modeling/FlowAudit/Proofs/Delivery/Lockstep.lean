import FlowAudit.Proofs.Delivery.Event

/-!
# Workers whose sinks react alike

The script of a sink plays a part in a run of its worker only when a record is offered, and then
only by its next reaction (`Worker.step?_withScript`). So two workers with different scripts go on
in lockstep as long as their sinks react alike to the attempts that were made (`Worker.Lockstep`).
It is enough that the sinks react alike where they see the same attempts: since the attempts of a
worker are only added to, the two then always do.
-/

namespace FlowAudit.Delivery.Worker

variable {α : Type} {w w' : Worker α} {bound : Nat}

/-! ### Attempts are only added to -/

theorem attempts_prefix_of_step? (h : w.step? bound = some w') : w.attempts <+: w'.attempts := by
  cases event_of_step? h with
  | take | retry => exact List.prefix_append _ _
  | finish | deliver | giveUp | backOff | abandon => exact List.prefix_refl _

theorem attempts_prefix_advance (w : Worker α) (bound : Nat) :
    w.attempts <+: (w.advance bound).attempts := by
  induction w using advance.induct bound with
  | case1 w w' h ih =>
    rw [advance_eq_of_step? h]
    exact (attempts_prefix_of_step? h).trans ih
  | case2 w h =>
    have heq := advance_eq_self h
    exact heq.symm ▸ List.prefix_refl w.attempts

theorem attempts_push (w : Worker α) (a : α) : (w.push a).attempts = w.attempts := by
  unfold push
  rcases w.queue.push a with ⟨outcome, queue⟩
  cases outcome <;> rfl

theorem attempts_conclude (w : Worker α) (a : α) (retries : Nat) (outcome : DeliveryOutcome)
    (t : Nat) : (w.conclude a retries outcome t).attempts = w.attempts := by
  unfold conclude
  cases outcome with
  | delivered | dropPermanent => rfl
  | retryLater =>
    dsimp only
    split
    · rfl
    · split <;> rfl

/-! ### Scripts -/

theorem snd_nextReaction (script : List Reaction) : (nextReaction script).2 = script.drop 1 := by
  cases script <;> rfl

/-- The worker with another script. -/
def withScript (w : Worker α) (script : List Reaction) : Worker α :=
  { w with script }

theorem push_withScript (w : Worker α) (a : α) (script : List Reaction) :
    (w.withScript script).push a = (w.push a).withScript script := by
  unfold push withScript
  dsimp only
  rcases w.queue.push a with ⟨outcome, queue⟩
  cases outcome <;> rfl

theorem giveUp_withScript (w : Worker α) (reason : GiveUp) (t : Nat) (script : List Reaction) :
    (w.withScript script).giveUp reason t = (w.giveUp reason t).withScript script := rfl

theorem conclude_withScript (w : Worker α) (a : α) (retries : Nat) (outcome : DeliveryOutcome)
    (t : Nat) (script : List Reaction) :
    (w.withScript script).conclude a retries outcome t =
      (w.conclude a retries outcome t).withScript script := by
  unfold conclude
  cases outcome with
  | delivered | dropPermanent => rfl
  | retryLater =>
    dsimp only
    rw [apply_ite (fun v => withScript v script), apply_ite (fun v => withScript v script)]
    rfl

/-- What offering a record makes of a worker depends on the next reaction only, which is used up. -/
theorem offer_withScript (w : Worker α) (a : α) (retries t : Nat) (script : List Reaction) :
    (w.withScript script).offer a retries t =
      ((w.withScript [(nextReaction script).1]).offer a retries t).withScript script.tail := by
  cases script <;> rfl

/-- A worker can make a step or not whatever its script is. The script plays a part only if a record
is offered. -/
theorem step?_withScript (w : Worker α) (bound : Nat) :
    (∀ script, (w.withScript script).step? bound = none) ∨
      (∃ w' : Worker α, w'.attempts = w.attempts ∧
        ∀ script, (w.withScript script).step? bound = some (w'.withScript script)) ∨
      ∃ (v : Worker α) (a : α) (retries t : Nat), v.attempts = w.attempts ∧
        ∀ script, (w.withScript script).step? bound =
          some ((v.withScript script).offer a retries t) := by
  cases hact : w.activity with
  | idle =>
    by_cases hdue : w.time < bound
    · cases hitems : w.queue.items with
      | cons a rest =>
        refine .inr (.inr ⟨{ w with queue.items := rest }, a, 0, w.time, rfl, fun script => ?_⟩)
        simp [step?, withScript, hact, hdue, hitems]
      | nil =>
        cases hclosed : w.queue.closed with
        | true =>
          refine .inr (.inl ⟨{ w with activity := .finished, closedAt := some w.time }, rfl,
            fun script => ?_⟩)
          simp [step?, withScript, hact, hdue, hitems, hclosed]
        | false => exact .inl fun script => by simp [step?, withScript, hact, hitems, hclosed]
    · exact .inl fun script => by simp [step?, withScript, hact, hdue]
  | attempting a retries outcome ends =>
    by_cases hdue : ends < bound
    · refine .inr (.inl ⟨w.conclude a retries outcome ends, attempts_conclude .., fun script => ?_⟩)
      rw [← conclude_withScript]
      simp [step?, withScript, hact, hdue]
    · exact .inl fun script => by simp [step?, withScript, hact, hdue]
  | backingOff a retries ends =>
    cases hstopping : w.stopping with
    | true =>
      by_cases hdue : w.time < bound
      · refine .inr (.inl ⟨w.giveUp .stopping w.time, rfl, fun script => ?_⟩)
        rw [← giveUp_withScript]
        simp [step?, withScript, hact, hdue, hstopping]
      · exact .inl fun script => by simp [step?, withScript, hact, hdue, hstopping]
    | false =>
      by_cases hdue : ends < bound
      · refine .inr (.inr ⟨w, a, retries, ends, rfl, fun script => ?_⟩)
        simp [step?, withScript, hact, hdue, hstopping]
      · exact .inl fun script => by simp [step?, withScript, hact, hdue, hstopping]
  | finished => exact .inl fun script => by simp [step?, withScript, hact]

/-! ### Lockstep -/

/-- What a sink with this script answers to the attempt with the given number, counted from zero. -/
def reactionTo (script : List Reaction) (n : Nat) : Reaction :=
  (nextReaction (script.drop n)).1

/-- Two sinks react alike where they see the same attempts. -/
def ReactAlike (script₁ script₂ : List Reaction) (attempts₁ attempts₂ : List (Attempt α)) : Prop :=
  ∀ n, n < attempts₁.length → n < attempts₂.length →
    attempts₁.take (n + 1) = attempts₂.take (n + 1) → reactionTo script₁ n = reactionTo script₂ n

/-- Two workers that differ in what is left of their scripts only. -/
def Lockstep (script₁ script₂ : List Reaction) (w₁ w₂ : Worker α) : Prop :=
  ∃ w : Worker α, w₁ = w.withScript (script₁.drop w.attempts.length) ∧
    w₂ = w.withScript (script₂.drop w.attempts.length)

namespace Lockstep

variable {script₁ script₂ : List Reaction} {w₁ w₂ : Worker α}
  {attempts₁ attempts₂ : List (Attempt α)}

theorem new (settings : DeliverySettings) (script₁ script₂ : List Reaction) :
    Lockstep script₁ script₂ (Worker.new settings script₁ : Worker α) (.new settings script₂) :=
  ⟨.new settings [], rfl, rfl⟩

theorem push (h : Lockstep script₁ script₂ w₁ w₂) (a : α) :
    Lockstep script₁ script₂ (w₁.push a) (w₂.push a) := by
  obtain ⟨w, rfl, rfl⟩ := h
  refine ⟨w.push a, ?_, ?_⟩
  · rw [push_withScript, attempts_push]
  · rw [push_withScript, attempts_push]

/-- A record that both offer is answered alike, if the attempts made so far are some of those on
which their sinks react alike. -/
theorem offer (hreact : ReactAlike script₁ script₂ attempts₁ attempts₂) {w v : Worker α} {a : α}
    {retries t : Nat} (hv : v.attempts = w.attempts)
    (h₁ : w.attempts ++ [⟨a, t⟩] <+: attempts₁) (h₂ : w.attempts ++ [⟨a, t⟩] <+: attempts₂) :
    Lockstep script₁ script₂
      ((v.withScript (script₁.drop w.attempts.length)).offer a retries t)
      ((v.withScript (script₂.drop w.attempts.length)).offer a retries t) := by
  -- up to this attempt both have made the same ones
  have hsame : reactionTo script₁ w.attempts.length = reactionTo script₂ w.attempts.length := by
    have hlength₁ := h₁.length_le
    have hlength₂ := h₂.length_le
    have htake₁ := List.prefix_iff_eq_take.mp h₁
    have htake₂ := List.prefix_iff_eq_take.mp h₂
    rw [List.length_append, List.length_singleton] at hlength₁ hlength₂ htake₁ htake₂
    exact hreact w.attempts.length hlength₁ hlength₂ (htake₁.symm.trans htake₂)
  have hlength (reaction : Reaction) :
      (((v.withScript [reaction]).offer a retries t).attempts).length = w.attempts.length + 1 := by
    rw [attempts_offer, List.length_append, List.length_singleton, ← hv]
    rfl
  refine ⟨(v.withScript [reactionTo script₁ w.attempts.length]).offer a retries t, ?_, ?_⟩
  · rw [offer_withScript, hlength, List.tail_drop]
    rfl
  · rw [offer_withScript, hlength, List.tail_drop, hsame]
    rfl

/-- Two workers in lockstep stay so while their sinks react alike to the attempts that they make. -/
theorem advance {bound : Nat} (h : Lockstep script₁ script₂ w₁ w₂)
    (hreact : ReactAlike script₁ script₂ attempts₁ attempts₂)
    (h₁ : (w₁.advance bound).attempts <+: attempts₁)
    (h₂ : (w₂.advance bound).attempts <+: attempts₂) :
    Lockstep script₁ script₂ (w₁.advance bound) (w₂.advance bound) := by
  induction w₁ using advance.induct bound generalizing w₂ with
  | case1 w₁ w₁' hstep ih =>
    obtain ⟨w, rfl, rfl⟩ := h
    rcases w.step?_withScript bound with hnone | ⟨w', hattempts, hsilent⟩ |
      ⟨v, a, retries, t, hattempts, hoffer⟩
    · rw [hnone] at hstep
      cases hstep
    · rw [hsilent] at hstep
      obtain rfl := Option.some.inj hstep
      rw [advance_eq_of_step? (hsilent _)] at h₁ h₂ ⊢
      rw [advance_eq_of_step? (hsilent _)]
      refine ih ⟨w', ?_, ?_⟩ h₁ h₂
      · rw [hattempts]
      · rw [hattempts]
    · rw [hoffer] at hstep
      obtain rfl := Option.some.inj hstep
      rw [advance_eq_of_step? (hoffer _)] at h₁ h₂ ⊢
      rw [advance_eq_of_step? (hoffer _)]
      -- both offer the same record at the same time, whatever the answer will be
      have hnext (script : List Reaction) :
          ((v.withScript script).offer a retries t).attempts = w.attempts ++ [⟨a, t⟩] := by
        rw [attempts_offer, ← hattempts]
        rfl
      refine ih (offer hreact hattempts ?_ ?_) h₁ h₂
      · rw [← hnext]
        exact (attempts_prefix_advance _ bound).trans h₁
      · rw [← hnext]
        exact (attempts_prefix_advance _ bound).trans h₂
  | case2 w₁ hstep =>
    obtain ⟨w, rfl, rfl⟩ := h
    rcases w.step?_withScript bound with hnone | ⟨w', hattempts, hsilent⟩ |
      ⟨v, a, retries, t, hattempts, hoffer⟩
    · rw [advance_eq_self (hnone _), advance_eq_self (hnone _)]
      exact ⟨w, rfl, rfl⟩
    · rw [hsilent] at hstep
      cases hstep
    · rw [hoffer] at hstep
      cases hstep

end Lockstep

end FlowAudit.Delivery.Worker
