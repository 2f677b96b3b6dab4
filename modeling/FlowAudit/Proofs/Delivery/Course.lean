import Mathlib.Data.List.Basic
import FlowAudit.Proofs.Delivery.Counters
import FlowAudit.Proofs.Delivery.Trial

/-!
# How a delivery goes

Between the event that takes a record from the queue and the one that ends its delivery, a worker
that is not asked to stop does nothing but offer the record and wait. What it has done so far is
told by the trials that it has made (`Underway`), and every event adds to them or ends the delivery
(`Underway.step`). So the trials of every delivery follow their `Course`, the last one gives the
`Verdict`, and the worker does nothing else in between (`course_of_take`).

A worker never counts more retries of a record than its settings allow, asked to stop or not
(`Clocked.retries_le`).
-/

namespace FlowAudit.Delivery

variable {α : Type}

/-- How a delivery with these trials ends, and what is counted. -/
structure Verdict (settings : DeliverySettings) (a : α) (trials : List Trial)
    (last : Happening α) (before after : SinkStats) : Prop where
  exhausted_iff : last.GivesUp a "retries exhausted" ↔
    trials.length = settings.maxRetries.toNat + 1 ∧
      ∀ x ∈ trials, x.outcome settings = .retryLater
  rejected_iff : last.GivesUp a "rejected by sink" ↔
    ∃ x, trials.getLast? = some x ∧ x.outcome settings = .dropPermanent
  of_givesUp : last.GivesUp a "retries exhausted" ∨ last.GivesUp a "rejected by sink" →
    after.delivered = before.delivered ∧
      after.droppedPermanent = before.droppedPermanent + 1
  of_not_givesUp : ¬ last.GivesUp a "retries exhausted" → ¬ last.GivesUp a "rejected by sink" →
    last = .deliver a ∧ after.delivered = before.delivered + 1 ∧
      after.droppedPermanent = before.droppedPermanent
  retried_eq : after.retried = before.retried + (trials.length - 1)

/-- How often the record was offered that a worker holds, besides the first time. -/
def Activity.retries : Activity α → Nat
  | .attempting _ retries _ _ => retries
  | .backingOff _ retries _ => retries
  | _ => 0

namespace Worker

variable {w w' w₀ v : Worker α} {t t₀ s : Nat} {past before : List (Occurrence α)}
  {happening : Happening α} {a : α} {k n ends : Nat} {front : List Trial} {x : Trial}

/-! ### Runs taken apart -/

theorem concat_eq_append_cons {β : Type} {l front back : List β} {x z : β}
    (h : l ++ [z] = front ++ x :: back) :
    (back = [] ∧ l = front ∧ z = x) ∨ ∃ rest, back = rest ++ [z] ∧ l = front ++ x :: rest := by
  rcases List.eq_nil_or_concat back with rfl | ⟨rest, y, rfl⟩
  · obtain ⟨rfl, hz⟩ := List.append_inj' h rfl
    exact .inl ⟨rfl, rfl, List.singleton_inj.mp hz⟩
  · rw [List.concat_eq_append, ← List.cons_append, ← List.append_assoc] at h
    obtain ⟨rfl, hz⟩ := List.append_inj' h rfl
    rw [List.concat_eq_append, List.singleton_inj.mp hz]
    exact .inr ⟨rest, rfl, rfl⟩

/-- A run goes on from each of its events as it went on to it. -/
theorem Clocked.exists_event (h : Clocked t₀ w₀ past t w) :
    ∀ front x back, past = front ++ x :: back → x.happening.isOwn = true →
      ∃ v v', Clocked t₀ w₀ front x.time v ∧ v.step? (x.time + 1) = some v' ∧
        x.happening = v.next ∧ Clocked x.time v' back t w := by
  induction h with
  | start =>
    intro front x back hpast
    simp at hpast
  | push a _ ih =>
    intro front x back hpast hown
    rcases concat_eq_append_cons hpast with ⟨rfl, rfl, rfl⟩ | ⟨rest, rfl, hrest⟩
    · cases hown
    · obtain ⟨v, v', hv, hstep, hnext, hback⟩ := ih front x rest hrest hown
      exact ⟨v, v', hv, hstep, hnext, hback.push a⟩
  | stop _ ih =>
    intro front x back hpast hown
    rcases concat_eq_append_cons hpast with ⟨rfl, rfl, rfl⟩ | ⟨rest, rfl, hrest⟩
    · cases hown
    · obtain ⟨v, v', hv, hstep, hnext, hback⟩ := ih front x rest hrest hown
      exact ⟨v, v', hv, hstep, hnext, hback.stop⟩
  | close _ ih =>
    intro front x back hpast hown
    rcases concat_eq_append_cons hpast with ⟨rfl, rfl, rfl⟩ | ⟨rest, rfl, hrest⟩
    · cases hown
    · obtain ⟨v, v', hv, hstep, hnext, hback⟩ := ih front x rest hrest hown
      exact ⟨v, v', hv, hstep, hnext, hback.close⟩
  | @event _ _ u u' h hstep ih =>
    intro front x back hpast hown
    rcases concat_eq_append_cons hpast with ⟨rfl, rfl, rfl⟩ | ⟨rest, rfl, hrest⟩
    · exact ⟨u, u', h, hstep, rfl, .start⟩
    · obtain ⟨v, v', hv, hstep', hnext, hback⟩ := ih front x rest hrest hown
      exact ⟨v, v', hv, hstep', hnext, hback.event hstep⟩
  | pass t' _ hle hquiet ih =>
    intro front x back hpast hown
    obtain ⟨v, v', hv, hstep, hnext, hback⟩ := ih front x back hpast hown
    exact ⟨v, v', hv, hstep, hnext, hback.pass t' hle hquiet⟩

/-! ### What does not change -/

theorem Happens.settings_eq (h : Happens w t happening w') : w'.settings = w.settings := by
  cases h with
  | take | finish | deliver | giveUp | backOff | abandon | retry => rfl

theorem Clocked.settings_eq (h₀ : w₀.OnTime t₀) (h : Clocked t₀ w₀ past t w) :
    w.settings = w₀.settings := by
  induction h with
  | start => rfl
  | @push _ _ w a _ ih =>
    obtain ⟨queue, droppedOldest, heq⟩ := w.push_eq a
    rw [heq]
    exact ih
  | stop _ ih | close _ ih | pass _ _ _ _ ih => exact ih
  | event h hstep ih => rw [((h.onTime h₀).happens hstep).settings_eq, ih]

theorem Happens.script_eq {script : List Reaction} (h : Happens w t happening w')
    (hscript : w.script = script.drop w.attempts.length) :
    w'.script = script.drop w'.attempts.length := by
  cases h with
  | take | retry =>
    show (nextReaction w.script).2 = _
    rw [snd_nextReaction, hscript, List.drop_drop, attempts_offer, List.length_append]
    rfl
  | finish | deliver | giveUp | backOff | abandon => exact hscript

/-- What is left of the script is what the attempts have not used up. -/
theorem Clocked.script_eq {script : List Reaction} (h₀ : w₀.OnTime t₀)
    (hscript : w₀.script = script.drop w₀.attempts.length) (h : Clocked t₀ w₀ past t w) :
    w.script = script.drop w.attempts.length := by
  induction h with
  | start => exact hscript
  | @push _ _ w a _ ih =>
    obtain ⟨queue, droppedOldest, heq⟩ := w.push_eq a
    rw [heq]
    exact ih
  | stop _ ih | close _ ih | pass _ _ _ _ ih => exact ih
  | event h hstep ih => exact ((h.onTime h₀).happens hstep).script_eq ih

/-- What the sink answers once the beginning of its script is used up. -/
theorem reactionTo_drop (script : List Reaction) (n : Nat) :
    reactionTo (script.drop n) = fun k => reactionTo script (n + k) := by
  ext k
  rw [reactionTo, List.drop_drop]
  rfl

/-- What the worker does by itself. -/
def own (past : List (Occurrence α)) : List (Occurrence α) :=
  past.filter (·.happening.isOwn)

theorem own_concat_of_isOwn (past : List (Occurrence α)) {y : Occurrence α}
    (hy : y.happening.isOwn = true) : own (past ++ [y]) = own past ++ [y] := by
  rw [own, List.filter_append]
  exact congrArg _ (List.filter_cons_of_pos hy)

theorem own_concat_of_not_isOwn (past : List (Occurrence α)) {y : Occurrence α}
    (hy : y.happening.isOwn = false) : own (past ++ [y]) = own past := by
  have hnone : [y].filter (·.happening.isOwn) = [] :=
    List.filter_cons_of_neg (ne_true_of_eq_false hy)
  rw [own, List.filter_append, hnone, List.append_nil]
  rfl

/-- An attempt is something that the worker does by itself. -/
theorem filterMap_attempt?_own (past : List (Occurrence α)) :
    (own past).filterMap Occurrence.attempt? = past.filterMap Occurrence.attempt? := by
  rw [own, List.filterMap_filter]
  apply List.filterMap_congr
  rintro ⟨happening, time⟩ -
  cases happening with
  | push | stop | close | take | retry | deliver | giveUp | backOff | abandon | finish => rfl

/-! ### Records under way -/

/-- What a worker has used up and counted since it was about to take the record that it holds. -/
structure Since (w₀ w : Worker α) (attempts retries : Nat) : Prop where
  settings_eq : w.settings = w₀.settings
  stopping_eq : w.stopping = false
  script_eq : w.script = w₀.script.drop attempts
  delivered_eq : w.stats.delivered = w₀.stats.delivered
  droppedPermanent_eq : w.stats.droppedPermanent = w₀.stats.droppedPermanent
  retried_eq : w.stats.retried = w₀.stats.retried + retries

/-- The record that a worker was about to take is being delivered. -/
inductive Underway (w₀ : Worker α) (a : α) (s : Nat) (past : List (Occurrence α)) (w : Worker α) :
    Prop
  | attempting (front : List Trial) (x : Trial)
    (htries : Tries w₀.settings (reactionTo w₀.script) s (front ++ [x]))
    (hact : w.activity =
      .attempting a front.length (x.outcome w₀.settings) (x.ends w₀.settings))
    (hown : own past =
      Trial.episodes w₀.settings a front ++ [⟨Trial.opening a front.length, x.start⟩])
    (hsince : w₀.Since w (front.length + 1) front.length)
  | backingOff (front : List Trial) (x : Trial)
    (htries : Tries w₀.settings (reactionTo w₀.script) s (front ++ [x]))
    (hfailed : x.outcome w₀.settings = .retryLater)
    (hleft : front.length < w₀.settings.maxRetries.toNat)
    (hact : w.activity = .backingOff a (front.length + 1)
      (x.ends w₀.settings + (w₀.settings.backoff front.length).toNat))
    (hown : own past = Trial.episodes w₀.settings a (front ++ [x]))
    (hsince : w₀.Since w (front.length + 1) (front.length + 1))

/-- The delivery of the record that a worker was about to take has come to its end with the last
happening. -/
def Ended (w₀ : Worker α) (a : α) (s : Nat) (past : List (Occurrence α)) (last : Happening α)
    (w : Worker α) : Prop :=
  ∃ trials, Course w₀.settings (reactionTo w₀.script) s trials ∧
    own past = Trial.episodes w₀.settings a trials ∧
    Verdict w₀.settings a trials last w₀.stats w.stats

theorem Since.push (h : w₀.Since w k n) (b : α) : w₀.Since (w.push b) k n := by
  obtain ⟨queue, droppedOldest, heq⟩ := w.push_eq b
  rw [heq]
  exact ⟨h.settings_eq, h.stopping_eq, h.script_eq, h.delivered_eq, h.droppedPermanent_eq,
    h.retried_eq⟩

/-- What leaves alone what the worker is doing and has counted leaves the record under way. -/
theorem Underway.outside (h : Underway w₀ a s past w) {past' : List (Occurrence α)}
    (hact : w'.activity = w.activity) (hown : own past' = own past)
    (hsince : ∀ k n, w₀.Since w k n → w₀.Since w' k n) : Underway w₀ a s past' w' := by
  cases h with
  | attempting front x htries hact' hown' hsince' =>
    exact .attempting front x htries (hact.trans hact') (hown.trans hown') (hsince _ _ hsince')
  | backingOff front x htries hfailed hleft hact' hown' hsince' =>
    exact .backingOff front x htries hfailed hleft (hact.trans hact') (hown.trans hown')
      (hsince _ _ hsince')

/-! ### What comes next -/

/-- An attempt that is concluded now ends now. -/
theorem OnTime.eq_of_attempting {outcome : DeliveryOutcome} (h : w.OnTime t)
    (hact : w.activity = .attempting a k outcome ends) (hstep : w.step? (t + 1) = some w') :
    ends = t ∧ w' = w.conclude a k outcome t := by
  have hle := h.le_dueAt
  rw [dueAt, hact] at hle
  rw [step?, hact] at hstep
  dsimp only at hle hstep
  split at hstep
  · obtain rfl : ends = t := by omega
    exact ⟨rfl, (Option.some.inj hstep).symm⟩
  · cases hstep

/-- A record that is offered once more now was to wait until now. -/
theorem OnTime.eq_of_backingOff (h : w.OnTime t) (hact : w.activity = .backingOff a k ends)
    (hstopping : w.stopping = false) (hstep : w.step? (t + 1) = some w') :
    ends = t ∧ w' = w.offer a k t := by
  have hle := h.le_dueAt
  rw [dueAt, hact] at hle
  rw [step?, hact] at hstep
  simp only [hstopping, Bool.false_eq_true, if_false] at hle hstep
  split at hstep
  · obtain rfl : ends = t := by omega
    exact ⟨rfl, (Option.some.inj hstep).symm⟩
  · cases hstep

/-- The next event of a worker in an attempt concludes the trial. -/
theorem next_of_attempting
    (hact : w.activity = .attempting a k (x.outcome w.settings) ends)
    (hstopping : w.stopping = false) : w.next = x.conclusion w.settings a k := by
  rw [next, hact]
  unfold Trial.conclusion
  cases x.outcome w.settings with
  | delivered | dropPermanent => rfl
  | retryLater =>
    by_cases hleft : k < w.settings.maxRetries.toNat
    · simp [hstopping, hleft, Nat.not_le.mpr hleft]
    · simp [hstopping, hleft, Nat.le_of_not_lt hleft]

theorem conclude_of_left (hstopping : w.stopping = false)
    (hleft : k < w.settings.maxRetries.toNat) : w.conclude a k .retryLater t = { w with
      activity := .backingOff a (k + 1) (t + (w.settings.backoff k).toNat)
      time := t
      stats.retried := w.stats.retried + 1 } := by
  simp [conclude, hstopping, Nat.not_le.mpr hleft]

/-- After the last trial a record counts as delivered or as given up. -/
theorem stats_conclude {outcome : DeliveryOutcome} (hstopping : w.stopping = false)
    (hlast : ¬ (outcome = .retryLater ∧ k < w.settings.maxRetries.toNat)) :
    (w.conclude a k outcome t).stats =
      if outcome = .delivered then { w.stats with delivered := w.stats.delivered + 1 }
      else { w.stats with droppedPermanent := w.stats.droppedPermanent + 1 } := by
  cases outcome with
  | delivered | dropPermanent => rfl
  | retryLater =>
    have hleft : w.settings.maxRetries.toNat ≤ k := Nat.le_of_not_lt fun hlt => hlast ⟨rfl, hlt⟩
    simp [conclude, hstopping, hleft, giveUp]

/-- Offering a record begins the next trial. -/
theorem activity_offer (w : Worker α) (a : α) (k t : Nat) : (w.offer a k t).activity =
    .attempting a k ((⟨t, (nextReaction w.script).1⟩ : Trial).outcome w.settings)
      ((⟨t, (nextReaction w.script).1⟩ : Trial).ends w.settings) := by
  unfold offer
  rcases nextReaction w.script with ⟨reaction, script⟩
  dsimp only
  rw [Reaction.within_eq]
  rfl

/-! ### Ends -/

/-- When the last trial is over and there is to be no further one, the delivery ends with the
verdict that the trials give. -/
theorem verdict_conclude (h : Tries w₀.settings (reactionTo w₀.script) s (front ++ [x]))
    (hlast : ¬ (x.outcome w₀.settings = .retryLater ∧ front.length < w₀.settings.maxRetries.toNat))
    (hsince : w₀.Since w n front.length) :
    Verdict w₀.settings a (front ++ [x]) (x.conclusion w₀.settings a front.length) w₀.stats
      (w.conclude a front.length (x.outcome w₀.settings) t).stats := by
  obtain ⟨hfront, hle⟩ := h.forall_mem_front
  have hlength : (front ++ [x]).length = front.length + 1 := List.length_append
  have hgetLast : (front ++ [x]).getLast? = some x := List.getLast?_concat
  have hdelivered := hsince.delivered_eq
  have hdropped := hsince.droppedPermanent_eq
  rw [stats_conclude hsince.stopping_eq (hsince.settings_eq ▸ hlast)]
  refine ⟨?_, ?_, ?_, ?_, ?_⟩
  · rw [Trial.givesUp_exhausted_iff, List.forall_mem_append, List.forall_mem_singleton]
    constructor
    · rintro ⟨houtcome, hleft⟩
      exact ⟨by omega, hfront, houtcome⟩
    · rintro ⟨hall, -, houtcome⟩
      exact ⟨houtcome, by omega⟩
  · rw [Trial.givesUp_rejected_iff, hgetLast]
    constructor
    · intro houtcome
      exact ⟨x, rfl, houtcome⟩
    · rintro ⟨y, hy, houtcome⟩
      exact Option.some.inj hy ▸ houtcome
  · rw [Trial.givesUp_exhausted_iff, Trial.givesUp_rejected_iff]
    intro hgiven
    have hnot : x.outcome w₀.settings ≠ .delivered := by
      rcases hgiven with ⟨houtcome, -⟩ | houtcome
      · rw [houtcome]
        decide
      · rw [houtcome]
        decide
    rw [if_neg hnot]
    exact ⟨hdelivered, congrArg (· + 1) hdropped⟩
  · rw [Trial.givesUp_exhausted_iff, Trial.givesUp_rejected_iff]
    intro hexhausted hrejected
    -- what is left is that the sink took the record
    have houtcome : x.outcome w₀.settings = .delivered := by
      cases houtcome : x.outcome w₀.settings with
      | delivered => rfl
      | dropPermanent => exact absurd houtcome hrejected
      | retryLater =>
        have hleft := Nat.le_of_not_lt fun hlt => hlast ⟨houtcome, hlt⟩
        exact absurd ⟨houtcome, hleft⟩ hexhausted
    rw [Trial.conclusion, houtcome, if_pos rfl]
    exact ⟨rfl, congrArg (· + 1) hdelivered, hdropped⟩
  · rw [hlength, Nat.add_sub_cancel, ← hsince.retried_eq]
    split
    · rfl
    · rfl

/-! ### Steps -/

/-- An event of a worker that delivers a record begins or ends a trial, and if that was the last
one it ends the delivery. -/
theorem Underway.step (h : Underway w₀ a s past w) (hon : w.OnTime t)
    (hstep : w.step? (t + 1) = some w') :
    (w.next.isEnd = false ∧ Underway w₀ a s (past ++ [⟨w.next, t⟩]) w') ∨
      (w.next.isEnd = true ∧ Ended w₀ a s (past ++ [⟨w.next, t⟩]) w.next w') := by
  have hown' := own_concat_of_isOwn past (y := ⟨w.next, t⟩) (isOwn_next w)
  cases h with
  | attempting front x htries hact hown hsince =>
    obtain ⟨hends, rfl⟩ := hon.eq_of_attempting hact hstep
    have hsettings := hsince.settings_eq
    have hnext : w.next = x.conclusion w₀.settings a front.length := by
      rw [← hsettings] at hact ⊢
      exact next_of_attempting hact hsince.stopping_eq
    have hepisodes : own (past ++ [⟨w.next, t⟩]) = Trial.episodes w₀.settings a (front ++ [x]) := by
      rw [hown', hown, hnext, ← hends, Trial.episodes_concat, List.append_assoc]
      rfl
    -- there is to be a further trial, or this was the last one
    by_cases hfailed : x.outcome w₀.settings = .retryLater ∧
        front.length < w₀.settings.maxRetries.toNat
    · left
      refine ⟨by rw [hnext, Trial.isEnd_conclusion_eq_false_iff]; exact hfailed, ?_⟩
      rw [hfailed.1, conclude_of_left hsince.stopping_eq (hsettings ▸ hfailed.2)]
      refine .backingOff front x htries hfailed.1 hfailed.2 ?_ hepisodes ?_
      · show Activity.backingOff a _ (t + (w.settings.backoff front.length).toNat) = _
        rw [hsettings, hends]
      · exact ⟨hsettings, hsince.stopping_eq, hsince.script_eq, hsince.delivered_eq,
          hsince.droppedPermanent_eq, congrArg (· + 1) hsince.retried_eq⟩
    · right
      refine ⟨?_, front ++ [x], htries.course hfailed, hepisodes, ?_⟩
      · rw [← Bool.not_eq_false, hnext, Trial.isEnd_conclusion_eq_false_iff]
        exact hfailed
      · rw [hnext]
        exact verdict_conclude htries hfailed hsince
  | backingOff front x htries hfailed hleft hact hown hsince =>
    obtain ⟨hends, rfl⟩ := hon.eq_of_backingOff hact hsince.stopping_eq hstep
    have hnext : w.next = .retry a := by
      rw [next, hact]
      simp [hsince.stopping_eq]
    -- the trials so far have used up as many reactions
    have hreaction : (nextReaction w.script).1 = reactionTo w₀.script (front.length + 1) := by
      rw [hsince.script_eq]
      rfl
    have hlength : (front ++ [x]).length = front.length + 1 := List.length_append
    left
    refine ⟨by rw [hnext]; rfl, ?_⟩
    refine .attempting (front ++ [x]) _ (htries.again hfailed hleft) ?_ ?_ ?_
    · rw [activity_offer, hreaction, hsince.settings_eq, hlength, hends]
    · rw [hown', hown, hnext, hlength, hends]
      rfl
    · rw [hlength]
      refine ⟨hsince.settings_eq, hsince.stopping_eq, ?_, hsince.delivered_eq,
        hsince.droppedPermanent_eq, hsince.retried_eq⟩
      show (nextReaction w.script).2 = _
      rw [snd_nextReaction, hsince.script_eq, List.drop_drop]

/-! ### Deliveries -/

/-- A record that is taken is under way. -/
theorem underway_take (h : Happens w₀ s (.take a) v) (hstopping : w₀.stopping = false) :
    Underway w₀ a s [⟨.take a, s⟩] v := by
  cases h with
  | take _ rest hidle hitems =>
    refine .attempting [] _ .first ?_ rfl ?_
    · exact activity_offer _ a 0 s
    · exact ⟨rfl, hstopping, snd_nextReaction w₀.script, rfl, rfl, rfl⟩

/-- A record stays under way until the worker is asked to stop or ends its delivery. -/
theorem Clocked.underway (hon : v.OnTime t₀) (hv : Underway w₀ a s before v)
    (h : Clocked t₀ v past t w) (hstop : ∀ y ∈ past, y.happening.isStop = false)
    (hend : ∀ y ∈ past, y.happening.isEnd = false) : Underway w₀ a s (before ++ past) w := by
  induction h with
  | start => rwa [List.append_nil]
  | @push past t w b _ ih =>
    have hprev := ih (List.forall_mem_append.mp hstop).1 (List.forall_mem_append.mp hend).1
    rw [← List.append_assoc]
    obtain ⟨queue, droppedOldest, heq⟩ := w.push_eq b
    exact hprev.outside (by rw [heq]) (own_concat_of_not_isOwn _ rfl) fun k n hk => hk.push b
  | stop =>
    have hlast := List.forall_mem_singleton.mp (List.forall_mem_append.mp hstop).2
    cases hlast
  | close _ ih =>
    have hprev := ih (List.forall_mem_append.mp hstop).1 (List.forall_mem_append.mp hend).1
    rw [← List.append_assoc]
    refine hprev.outside rfl (own_concat_of_not_isOwn _ rfl) fun k n hk => ?_
    exact ⟨hk.settings_eq, hk.stopping_eq, hk.script_eq, hk.delivered_eq, hk.droppedPermanent_eq,
      hk.retried_eq⟩
  | event h hstep ih =>
    have hprev := ih (List.forall_mem_append.mp hstop).1 (List.forall_mem_append.mp hend).1
    have hlast := List.forall_mem_singleton.mp (List.forall_mem_append.mp hend).2
    rw [← List.append_assoc]
    rcases hprev.step (h.onTime hon) hstep with ⟨-, hnext⟩ | ⟨hended, -⟩
    · exact hnext
    · rw [hlast] at hended
      cases hended
  | pass t' _ _ _ ih =>
    refine (ih hstop hend).outside rfl rfl fun k n hk => ?_
    exact ⟨hk.settings_eq, hk.stopping_eq, hk.script_eq, hk.delivered_eq, hk.droppedPermanent_eq,
      hk.retried_eq⟩

/-- A delivery that was under way until its end went as its trials say. -/
theorem Clocked.ended {u : Worker α} (hon : w₀.OnTime s) (hstopping : w₀.stopping = false)
    (htake : w₀.step? (s + 1) = some v) (hnext : .take a = w₀.next) (h : Clocked s v past t u)
    (hstop : ∀ y ∈ past, y.happening.isStop = false)
    (hend : ∀ y ∈ past, y.happening.isEnd = false) (hlast : u.step? (t + 1) = some w)
    (hover : u.next.isEnd = true) :
    Ended w₀ a s (⟨.take a, s⟩ :: past ++ [⟨u.next, t⟩]) u.next w := by
  have hhappens := hon.happens htake
  have honv := hon.happened hhappens
  rw [← hnext] at hhappens
  have hunder := h.underway honv (underway_take hhappens hstopping) hstop hend
  rcases hunder.step (h.onTime honv) hlast with ⟨hmore, -⟩ | ⟨-, hended⟩
  · rw [hover] at hmore
    cases hmore
  · exact hended

/-- A worker never counts more retries than its settings allow. -/
theorem Clocked.retries_le (h₀ : w₀.OnTime t₀)
    (hretries : w₀.activity.retries ≤ w₀.settings.maxRetries.toNat) (h : Clocked t₀ w₀ past t w) :
    w.activity.retries ≤ w₀.settings.maxRetries.toNat := by
  induction h with
  | start => exact hretries
  | @push _ _ w b _ ih =>
    obtain ⟨queue, droppedOldest, heq⟩ := w.push_eq b
    rw [heq]
    exact ih
  | stop _ ih | close _ ih | pass _ _ _ _ ih => exact ih
  | event h hstep ih =>
    cases event_of_step? hstep with
    | take | finish | deliver | giveUp | abandon => exact Nat.zero_le _
    | backOff b retries ends hact _ _ hleft =>
      -- it is counted only if it is allowed
      rw [h.settings_eq h₀] at hleft
      exact hleft
    | retry b retries ends hact =>
      rw [hact] at ih
      exact ih

/-! ### The rule -/

/-- In every run of a worker, each record whose delivery ends before the worker is asked to stop was
offered as its settings and the reactions of the sink say. Between the events that take the record
and end its delivery, the worker does by itself only what its trials consist of: each begins when an
attempt is made and ends as soon as it is answered, or at the timeout, when it counts as one that
may be repeated. A further trial is made exactly if the last one failed in a way that may pass and
retries are left, and it starts exactly the delay of its number after the end of the last one
(`Course`). The record is given up if all the trials that are allowed failed in that way, or if the
sink rejected it in the last one, and counts as delivered otherwise; the counter of retries grows by
one less than the number of trials (`Verdict`).

In no run, asked to stop or not, does the worker count more retries of a record than are allowed,
and so the counter never runs over. -/
theorem course_of_take (settings : DeliverySettings) (script : List Reaction) :
    (∀ before a s during x after t w,
      Clocked 0 (new settings script : Worker α)
        (before ++ ⟨.take a, s⟩ :: (during ++ x :: after)) t w →
      (∀ y ∈ before ++ during, y.happening.isStop = false) →
      (∀ y ∈ during, y.happening.isEnd = false) → x.happening.isEnd = true →
      ∃ (w₁ w₂ : Worker α) (trials : List Trial),
        Clocked 0 (new settings script) before s w₁ ∧
        Clocked s w₁ (⟨.take a, s⟩ :: during ++ [x]) x.time w₂ ∧
        Clocked x.time w₂ after t w ∧
        Course settings (fun k => reactionTo script (w₁.attempts.length + k)) s trials ∧
        own (⟨.take a, s⟩ :: during ++ [x]) = Trial.episodes settings a trials ∧
        w₂.attempts = w₁.attempts ++ trials.map (fun y => ⟨a, y.start⟩) ∧
        Verdict settings a trials x.happening w₁.stats w₂.stats) ∧
    ∀ past t w, Clocked 0 (new settings script : Worker α) past t w →
      w.activity.retries ≤ settings.maxRetries.toNat ∧ w.activity.retries < UInt32.size := by
  have hnew := onTime_new (α := α) settings script
  refine ⟨?_, ?_⟩
  · intro before a s during x after t w hrun hstop hduring hx
    have hstop := List.forall_mem_append.mp hstop
    -- the run up to the take, and from there up to the end of the delivery
    obtain ⟨w₁, v, hbefore, htake, hnext, hrest⟩ := hrun.exists_event _ _ _ rfl rfl
    obtain ⟨u, w₂, hu, hlast, hnext', hafter⟩ :=
      hrest.exists_event _ _ _ rfl (Happening.isOwn_of_isEnd hx)
    have hon := hbefore.onTime hnew
    have hsettings : w₁.settings = settings := hbefore.settings_eq hnew
    have hscript : w₁.script = script.drop w₁.attempts.length := hbefore.script_eq hnew rfl
    have hstopping := (hbefore.interrupted_eq_zero hnew rfl hstop.1).1
    have hwhole : Clocked s w₁ (⟨.take a, s⟩ :: during ++ [x]) x.time w₂ := by
      have hfirst := Clocked.start.event htake
      rw [← hnext] at hfirst
      have hall := (hfirst.trans hu).event hlast
      rw [← hnext'] at hall
      exact hall
    obtain ⟨trials, hcourse, hepisodes, hverdict⟩ :=
      hu.ended hon hstopping htake hnext hstop.2 hduring hlast (hnext' ▸ hx)
    rw [hsettings, hscript, reactionTo_drop] at hcourse
    rw [hsettings, ← hnext'] at hepisodes hverdict
    refine ⟨w₁, w₂, trials, hbefore, hwhole, hafter, hcourse, hepisodes, ?_, hverdict⟩
    rw [hwhole.attempts_eq hon, ← filterMap_attempt?_own, hepisodes,
      Trial.filterMap_attempt?_episodes]
  · intro past t w hrun
    have hle := hrun.retries_le hnew (Nat.zero_le _)
    exact ⟨hle, Nat.lt_of_le_of_lt hle settings.maxRetries.toNat_lt_size⟩

/-! ### A sink that fails and then hangs -/

/-- One retry is allowed. The sink asks for it after ten milliseconds and does not answer to it, and
a second record is added while the worker waits for that. -/
theorem course_of_hung : ∃ during t w,
    Clocked 0 (new { maxRetries := 1 } [.answer .retryLater 10, .hang] : Worker Nat)
      ([⟨.push 1, 0⟩] ++ ⟨.take 1, 0⟩ :: (during ++ [⟨.giveUp 1 .exhausted, 5210⟩])) t w ∧
    (∀ y ∈ [⟨.push 1, 0⟩] ++ during, y.happening.isStop = false) ∧
    (∀ y ∈ during, y.happening.isEnd = false) ∧
    ∃ (w₁ w₂ : Worker Nat) (trials : List Trial),
      Clocked 0 (new { maxRetries := 1 } [.answer .retryLater 10, .hang]) [⟨.push 1, 0⟩] 0 w₁ ∧
      own (⟨.take 1, 0⟩ :: during ++ [⟨.giveUp 1 .exhausted, 5210⟩]) =
        Trial.episodes { maxRetries := 1 } 1 trials ∧
      trials.length = 2 ∧ w₂.stats.retried = w₁.stats.retried + 1 ∧
      w₂.stats.droppedPermanent = w₁.stats.droppedPermanent + 1 := by
  have hnew : Clocked 0 (new { maxRetries := 1 } [.answer .retryLater 10, .hang] : Worker Nat) [] 0
    _ := .start
  have hfirst := ((hnew.push 1).event rfl).pass 10 (by decide) rfl
  have hsecond := ((hfirst.event rfl).pass 210 (by decide) rfl).event rfl
  have hend := ((hsecond.push 2).pass 5210 (by decide) rfl).event rfl
  have hstop : ∀ y ∈ ([⟨.push 1, 0⟩, ⟨.backOff 1, 10⟩, ⟨.retry 1, 210⟩, ⟨.push 2, 210⟩] :
      List (Occurrence Nat)), y.happening.isStop = false := by decide
  have hduring : ∀ y ∈ ([⟨.backOff 1, 10⟩, ⟨.retry 1, 210⟩, ⟨.push 2, 210⟩] :
      List (Occurrence Nat)), y.happening.isEnd = false := by decide
  obtain ⟨w₁, w₂, trials, hbefore, -, -, -, hown, -, hverdict⟩ :=
    (course_of_take { maxRetries := 1 } _).1 [⟨.push 1, 0⟩] 1 0
      [⟨.backOff 1, 10⟩, ⟨.retry 1, 210⟩, ⟨.push 2, 210⟩] ⟨.giveUp 1 .exhausted, 5210⟩ [] _ _ hend
      hstop hduring rfl
  have hexhausted : (Happening.giveUp 1 .exhausted).GivesUp 1 "retries exhausted" :=
    Happening.givesUp_iff.mpr rfl
  have hlength := (hverdict.exhausted_iff.mp hexhausted).1
  have hretried := hverdict.retried_eq
  rw [hlength] at hretried
  exact ⟨_, _, _, hend, hstop, hduring, w₁, w₂, trials, hbefore, hown, hlength, hretried,
    (hverdict.of_givesUp (.inl hexhausted)).2⟩

end Worker

end FlowAudit.Delivery
