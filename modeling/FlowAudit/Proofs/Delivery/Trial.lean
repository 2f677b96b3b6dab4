import Mathlib.Data.List.Induction
import FlowAudit.Proofs.Backoff
import FlowAudit.Proofs.Delivery.Clock

/-!
# Trials

A worker offers a record until the sink takes or rejects it, or the retries are used up. A `Trial`
is one of these attempts, with the time at which it starts and the reaction of the sink, which say
when it ends and how. The trials of a record follow from one another: the next one starts as long
after the end of the last one as the settings say (`Tries`). Trials that have come to their end
follow a `Course` that only the settings and the reactions of the sink determine (`Tries.course`).
-/

namespace FlowAudit.Delivery

variable {α : Type}

/-! ### Trials -/

namespace Reaction

/-- How long an attempt takes that ends after `timeout` at the latest. -/
def duration (timeout : Nat) : Reaction → Nat
  | .answer _ delay => min delay timeout
  | .hang => timeout

/-- What an attempt gives that ends after `timeout` at the latest: one that is not answered by then
may be repeated. -/
def outcome (timeout : Nat) : Reaction → DeliveryOutcome
  | .answer outcome delay => if delay ≤ timeout then outcome else .retryLater
  | .hang => .retryLater

theorem within_eq (timeout : Nat) (r : Reaction) :
    r.within timeout = (r.outcome timeout, r.duration timeout) := by
  cases r with
  | hang => rfl
  | answer outcome delay =>
    by_cases hdelay : delay ≤ timeout
    · simp [within, Reaction.outcome, duration, hdelay]
    · have hmin : min delay timeout = timeout := by omega
      simp [within, Reaction.outcome, duration, hdelay, hmin]

end Reaction

namespace Happening

/-- Whether the delivery of a record is over. -/
def isEnd : Happening α → Bool
  | .deliver _ => true
  | .giveUp _ _ => true
  | .abandon _ => true
  | _ => false

theorem isOwn_of_isEnd {happening : Happening α} (h : happening.isEnd = true) :
    happening.isOwn = true := by
  cases happening with
  | push | stop | close => cases h
  | take | retry | deliver | giveUp | backOff | abandon | finish => rfl

/-- The record is given up after an attempt, for a reason with the given text. -/
def GivesUp (a : α) (text : String) (happening : Happening α) : Prop :=
  ∃ reason, happening = .giveUp a reason ∧ reason.text = text

theorem givesUp_iff {a : α} {reason : GiveUp} {text : String} :
    (giveUp a reason).GivesUp a text ↔ reason.text = text := by
  constructor
  · rintro ⟨reason', heq, htext⟩
    obtain ⟨-, rfl⟩ := Happening.giveUp.inj heq
    exact htext
  · intro htext
    exact ⟨reason, rfl, htext⟩

end Happening

/-- An attempt at a record. -/
structure Trial where
  start : Nat
  reaction : Reaction
  deriving DecidableEq, Repr

namespace Trial

variable (settings : DeliverySettings)

def outcome (x : Trial) : DeliveryOutcome :=
  x.reaction.outcome settings.deliveryTimeout.toNat

def ends (x : Trial) : Nat :=
  x.start + x.reaction.duration settings.deliveryTimeout.toNat

/-- How the worker begins the trial with the given number, counted from zero. -/
def opening (a : α) (k : Nat) : Happening α :=
  if k = 0 then .take a else .retry a

/-- What the worker does when the trial with the given number is over. -/
def conclusion (a : α) (k : Nat) (x : Trial) : Happening α :=
  match x.outcome settings with
  | .delivered => .deliver a
  | .dropPermanent => .giveUp a .rejected
  | .retryLater => if k < settings.maxRetries.toNat then .backOff a else .giveUp a .exhausted

/-- What happens at the beginning and at the end of the trial with the given number. -/
def episode (a : α) (k : Nat) (x : Trial) : List (Occurrence α) :=
  [⟨opening a k, x.start⟩, ⟨x.conclusion settings a k, x.ends settings⟩]

/-- What happens in trials one after the other. -/
def episodes (a : α) (trials : List Trial) : List (Occurrence α) :=
  trials.zipIdx.flatMap fun (x, k) => x.episode settings a k

variable {settings} {x : Trial} {a : α} {k : Nat}

theorem episodes_concat (front : List Trial) (x : Trial) :
    episodes settings a (front ++ [x]) =
      episodes settings a front ++ x.episode settings a front.length := by
  rw [episodes, List.zipIdx_append, List.flatMap_append, Nat.zero_add]
  exact congrArg _ (List.append_nil _)

/-- The attempt of a trial is made at its beginning. -/
theorem filterMap_attempt?_episode (a : α) (k : Nat) (x : Trial) :
    (x.episode settings a k).filterMap Occurrence.attempt? = [⟨a, x.start⟩] := by
  have hopening : Occurrence.attempt? ⟨opening a k, x.start⟩ = some ⟨a, x.start⟩ := by
    unfold opening
    split
    · rfl
    · rfl
  have hconclusion :
      Occurrence.attempt? ⟨x.conclusion settings a k, x.ends settings⟩ = none := by
    unfold conclusion
    cases x.outcome settings with
    | delivered | dropPermanent => rfl
    | retryLater =>
      by_cases hleft : k < settings.maxRetries.toNat <;> simp [hleft, Occurrence.attempt?]
  rw [episode, List.filterMap_cons_some hopening, List.filterMap_cons_none hconclusion]
  rfl

theorem filterMap_attempt?_episodes (a : α) (trials : List Trial) :
    (episodes settings a trials).filterMap Occurrence.attempt? =
      trials.map fun x => ⟨a, x.start⟩ := by
  induction trials using List.reverseRecOn with
  | nil => rfl
  | append_singleton front x ih =>
    rw [episodes_concat, List.filterMap_append, ih, filterMap_attempt?_episode, List.map_append]
    rfl

/-- Unless it is the last one, a trial failed in a way that may pass, and retries are left. -/
theorem isEnd_conclusion_eq_false_iff : (x.conclusion settings a k).isEnd = false ↔
    x.outcome settings = .retryLater ∧ k < settings.maxRetries.toNat := by
  unfold conclusion
  cases x.outcome settings with
  | delivered | dropPermanent => simp [Happening.isEnd]
  | retryLater => by_cases hleft : k < settings.maxRetries.toNat <;> simp [Happening.isEnd, hleft]

/-- After a trial that failed in a way that may pass, the record is given up if no retries are
left. -/
theorem givesUp_exhausted_iff : (x.conclusion settings a k).GivesUp a "retries exhausted" ↔
    x.outcome settings = .retryLater ∧ settings.maxRetries.toNat ≤ k := by
  unfold conclusion
  cases x.outcome settings with
  | delivered => simp [Happening.GivesUp]
  | dropPermanent => simp [Happening.givesUp_iff, GiveUp.text]
  | retryLater =>
    by_cases hleft : k < settings.maxRetries.toNat
    · simp [Happening.GivesUp, hleft]
    · simp [Happening.givesUp_iff, GiveUp.text, hleft, Nat.le_of_not_lt hleft]

/-- After a trial in which the sink rejected the record, it is given up. -/
theorem givesUp_rejected_iff : (x.conclusion settings a k).GivesUp a "rejected by sink" ↔
    x.outcome settings = .dropPermanent := by
  unfold conclusion
  cases x.outcome settings with
  | delivered => simp [Happening.GivesUp]
  | dropPermanent => simp [Happening.givesUp_iff, GiveUp.text]
  | retryLater =>
    by_cases hleft : k < settings.maxRetries.toNat
    · simp [Happening.GivesUp, hleft]
    · simp [Happening.givesUp_iff, GiveUp.text, hleft]

end Trial

/-- The trials so far of a record that is offered for the first time at `s`, if the sink gives the
reactions `react` to them. -/
inductive Tries (settings : DeliverySettings) (react : Nat → Reaction) (s : Nat) :
    List Trial → Prop
  | first : Tries settings react s [⟨s, react 0⟩]
  | again {front : List Trial} {x : Trial} (h : Tries settings react s (front ++ [x]))
    (hfailed : x.outcome settings = .retryLater)
    (hleft : front.length < settings.maxRetries.toNat) :
    Tries settings react s ((front ++ [x]) ++
      [⟨x.ends settings + (settings.backoff front.length).toNat, react (front.length + 1)⟩])

/-- How the trials of a record go that is offered for the first time at `s`, if the sink gives the
reactions `react` to them. -/
structure Course (settings : DeliverySettings) (react : Nat → Reaction) (s : Nat)
    (trials : List Trial) : Prop where
  start_eq : (trials.map Trial.start).head? = some s
  reaction_eq : ∀ k x, trials[k]? = some x → x.reaction = react k
  /-- There is a further trial exactly if this one failed in a way that may pass and retries are
  left. -/
  isSome_next_iff : ∀ k x, trials[k]? = some x →
    (trials[k + 1]?.isSome = true ↔
      x.outcome settings = .retryLater ∧ k < settings.maxRetries.toNat)
  /-- A further trial starts a delay after the end of the one before, which doubles each time, at
  most thirty-two times, up to its maximum. -/
  start_next : ∀ k x y, trials[k]? = some x → trials[k + 1]? = some y →
    y.start = x.ends settings +
      min (settings.backoffBase.toNat * Nat.pow 2 (min k 32)) settings.backoffMax.toNat

namespace Tries

variable {settings : DeliverySettings} {react : Nat → Reaction} {s : Nat}
  {trials front : List Trial} {x : Trial}

theorem head?_start (h : Tries settings react s trials) :
    (trials.map Trial.start).head? = some s := by
  induction h with
  | first => rfl
  | again h _ _ ih => rw [List.map_append, List.head?_append, ih, Option.some_or]

theorem reaction_eq (h : Tries settings react s trials) :
    ∀ k x, trials[k]? = some x → x.reaction = react k := by
  induction h with
  | first =>
    intro k x hx
    cases k with
    | zero => exact Option.some.inj hx ▸ rfl
    | succ k => cases hx
  | @again front y h _ _ ih =>
    intro k x hx
    have hlength : (front ++ [y]).length = front.length + 1 := List.length_append
    rcases Nat.lt_trichotomy k (front ++ [y]).length with hlt | rfl | hgt
    · rw [List.getElem?_append_left hlt] at hx
      exact ih k x hx
    · rw [List.getElem?_concat_length] at hx
      obtain rfl := Option.some.inj hx
      rw [hlength]
    · rw [List.getElem?_eq_none (by rw [List.length_append]; exact hgt)] at hx
      cases hx

/-- Every trial but the last one failed in a way that may pass, and the next one follows it. -/
theorem next (h : Tries settings react s trials) :
    ∀ k x y, trials[k]? = some x → trials[k + 1]? = some y →
      x.outcome settings = .retryLater ∧ k < settings.maxRetries.toNat ∧
        y.start = x.ends settings + (settings.backoff k).toNat := by
  induction h with
  | first =>
    intro k x y _ hy
    cases hy
  | @again front z h hfailed hleft ih =>
    intro k x y hx hy
    have hlength : (front ++ [z]).length = front.length + 1 := List.length_append
    rcases Nat.lt_trichotomy (k + 1) (front ++ [z]).length with hlt | heq | hgt
    · rw [List.getElem?_append_left hlt] at hy
      rw [List.getElem?_append_left (Nat.lt_of_succ_lt hlt)] at hx
      exact ih k x y hx hy
    · -- this is the trial that was the last one
      have hk : k = front.length := by omega
      rw [heq, List.getElem?_concat_length] at hy
      rw [List.getElem?_append_left (by omega), hk, List.getElem?_concat_length] at hx
      obtain rfl := Option.some.inj hx
      obtain rfl := Option.some.inj hy
      rw [hk]
      exact ⟨hfailed, hleft, rfl⟩
    · rw [List.getElem?_eq_none (by rw [List.length_append]; exact hgt)] at hy
      cases hy

/-- Trials that end follow their course to the end. -/
theorem course (h : Tries settings react s (front ++ [x]))
    (hlast : ¬ (x.outcome settings = .retryLater ∧ front.length < settings.maxRetries.toNat)) :
    Course settings react s (front ++ [x]) := by
  refine ⟨h.head?_start, h.reaction_eq, ?_, ?_⟩
  · intro k y hy
    constructor
    · intro hsome
      obtain ⟨z, hz⟩ := Option.isSome_iff_exists.mp hsome
      have hnext := h.next k y z hy hz
      exact ⟨hnext.1, hnext.2.1⟩
    · intro hfailed
      by_contra hnone
      rw [Option.not_isSome_iff_eq_none, List.getElem?_eq_none_iff] at hnone
      have hlt := (List.getElem?_eq_some_iff.mp hy).1
      rw [List.length_append, List.length_singleton] at hlt hnone
      -- nothing comes after it, so it is the last one
      have hk : k = front.length := by omega
      rw [hk, List.getElem?_concat_length] at hy
      obtain rfl := Option.some.inj hy
      exact hlast (hk ▸ hfailed)
  · intro k y z hy hz
    rw [(h.next k y z hy hz).2.2]
    exact congrArg _ (Backoff.toNat_delay _ _ _)

/-- Every trial before the last one failed in a way that may pass. -/
theorem forall_mem_front (h : Tries settings react s (front ++ [x])) :
    (∀ y ∈ front, y.outcome settings = .retryLater) ∧
      front.length ≤ settings.maxRetries.toNat := by
  constructor
  · intro y hy
    obtain ⟨k, hk, rfl⟩ := List.getElem_of_mem hy
    have hthis : (front ++ [x])[k]? = some front[k] := by
      rw [List.getElem?_append_left hk, List.getElem?_eq_getElem hk]
    obtain ⟨z, hz⟩ : ∃ z, (front ++ [x])[k + 1]? = some z :=
      ⟨_, List.getElem?_eq_getElem (by simp; omega)⟩
    exact (h.next k _ z hthis hz).1
  · rcases List.eq_nil_or_concat front with rfl | ⟨front, y, rfl⟩
    · exact Nat.zero_le _
    · have hthis : (front.concat y ++ [x])[front.length]? = some y := by simp
      have hthen : (front.concat y ++ [x])[front.length + 1]? = some x := by simp
      have hnext := h.next front.length y x hthis hthen
      rw [List.length_concat]
      exact hnext.2.1

end Tries

end FlowAudit.Delivery
