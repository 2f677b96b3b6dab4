import Mathlib.Data.List.Basic
import FlowAudit.Proofs.Delivery.Ledger
import FlowAudit.Proofs.Delivery.Lockstep
import FlowAudit.Proofs.Delivery.Run

/-!
# What becomes of each record of a worker

`Worker.Run` is what can happen to a worker at all: records are added to its queue, it is asked to
stop and its queue is closed, at any time and in any order, and its own events happen in between.
A run has a trace, which lists what the queue and the sink see of the worker: the records it takes,
the attempts with the reactions of the sink, and the end of the sink.

A `Fate` is a record with all reactions that it met. The trace of a worker is its fates one after
the other (`Worker.Chronicle`), so the attempts of a record stand together and in the order of the
queue. A worker that has finished leaves no record without a fate (`Worker.fates_of_run`). The
lanes of a dispatcher run so (`Dispatcher.Run.exists_worker_run`).
-/

namespace FlowAudit.Delivery

variable {α : Type}

/-- Whether a sink takes a record, and says so in time. -/
def Reaction.takes (timeout : Nat) : Reaction → Bool
  | .answer .delivered delay => delay ≤ timeout
  | .answer _ _ => false
  | .hang => false

theorem Reaction.takes_iff {timeout : Nat} {r : Reaction} :
    r.takes timeout = true ↔ (r.within timeout).1 = .delivered := by
  cases r with
  | hang => simp [takes, within]
  | answer outcome delay =>
    by_cases hdelay : delay ≤ timeout
    · cases outcome <;> simp [takes, within, hdelay]
    · cases outcome <;> simp [takes, within, hdelay]

/-- What a worker does that its queue or its sink sees. -/
inductive Deed (α : Type) where
  /-- It takes a record from its queue. -/
  | pop (a : α)
  /-- It offers a record to its sink, which reacts to it. -/
  | offer (a : α) (reaction : Reaction)
  /-- It closes its sink. -/
  | close
  deriving DecidableEq, Repr

namespace Deed

def isPop : Deed α → Bool
  | .pop _ => true
  | _ => false

def isClose : Deed α → Bool
  | .close => true
  | _ => false

/-- Whether a record is offered and taken in time. -/
def isTaken (timeout : Nat) : Deed α → Bool
  | .offer _ reaction => reaction.takes timeout
  | _ => false

/-- The record that is offered. -/
def offered? : Deed α → Option α
  | .offer a _ => some a
  | _ => none

end Deed

/-! ### Fates -/

/-- A record that was taken from a queue, and the reactions of the sink each time it was offered. -/
structure Fate (α : Type) where
  record : α
  reactions : List Reaction
  deriving DecidableEq, Repr

namespace Fate

variable {settings : DeliverySettings} {f : Fate α} {n : Nat} {outcome : DeliveryOutcome}

/-- What is seen of a fate. -/
def deeds (f : Fate α) : List (Deed α) :=
  .pop f.record :: f.reactions.map (.offer f.record)

/-- Whether the record was taken in time. -/
def isDelivered (settings : DeliverySettings) (f : Fate α) : Bool :=
  f.reactions.any (·.takes settings.deliveryTimeout.toNat)

/-- After so many retries, no more than there may be, the last attempt had the given outcome; all
attempts before it failed in a way that may pass. -/
def Tried (settings : DeliverySettings) (f : Fate α) (n : Nat) (outcome : DeliveryOutcome) : Prop :=
  n ≤ settings.maxRetries.toNat ∧ ∃ retries last, f.reactions = retries ++ [last] ∧
    retries.length = n ∧ (last.within settings.deliveryTimeout.toNat).1 = outcome ∧
    ∀ r ∈ retries, (r.within settings.deliveryTimeout.toNat).1 = .retryLater

theorem tried_singleton (settings : DeliverySettings) (a : α) (r : Reaction) :
    (⟨a, [r]⟩ : Fate α).Tried settings 0 (r.within settings.deliveryTimeout.toNat).1 :=
  ⟨Nat.zero_le _, [], r, rfl, rfl, rfl, fun _ h => by cases h⟩

/-- A further attempt after one that failed in a way that may pass. -/
theorem Tried.concat (h : f.Tried settings n .retryLater) (hn : n < settings.maxRetries.toNat)
    (r : Reaction) : (⟨f.record, f.reactions ++ [r]⟩ : Fate α).Tried settings (n + 1)
      (r.within settings.deliveryTimeout.toNat).1 := by
  obtain ⟨-, retries, last, hreactions, hlength, hlast, hretries⟩ := h
  refine ⟨hn, f.reactions, r, rfl, ?_, rfl, ?_⟩
  · rw [hreactions, List.length_append, hlength, List.length_singleton]
  · intro r' hr'
    rw [hreactions, List.mem_append, List.mem_singleton] at hr'
    rcases hr' with hr' | rfl
    · exact hretries r' hr'
    · exact hlast

/-- No attempt before the last one was taken, so there is at most one that was. -/
theorem Tried.countP_takes (h : f.Tried settings n outcome) :
    f.reactions.countP (·.takes settings.deliveryTimeout.toNat) =
      if outcome = .delivered then 1 else 0 := by
  obtain ⟨-, retries, last, hreactions, -, hlast, hretries⟩ := h
  have hfront : retries.countP (·.takes settings.deliveryTimeout.toNat) = 0 := by
    rw [List.countP_eq_zero]
    intro r hr htakes
    rw [Reaction.takes_iff, hretries r hr] at htakes
    cases htakes
  rw [hreactions, List.countP_append, hfront, List.countP_singleton, Nat.zero_add]
  simp only [Reaction.takes_iff, hlast]

theorem Tried.isDelivered_eq (h : f.Tried settings n outcome) :
    f.isDelivered settings = decide (outcome = .delivered) := by
  have hcount := h.countP_takes
  rw [isDelivered, Bool.eq_iff_iff, List.any_eq_true, decide_eq_true_eq]
  by_cases houtcome : outcome = .delivered
  · rw [if_pos houtcome] at hcount
    have hpos := List.countP_pos_iff.mp (hcount ▸ Nat.one_pos)
    exact ⟨fun _ => houtcome, fun _ => hpos⟩
  · rw [if_neg houtcome, List.countP_eq_zero] at hcount
    refine ⟨fun ⟨r, hr, htakes⟩ => absurd htakes (hcount r hr), fun h => absurd h houtcome⟩

theorem Tried.countP_isTaken (h : f.Tried settings n outcome) :
    f.deeds.countP (Deed.isTaken settings.deliveryTimeout.toNat) =
      if f.isDelivered settings then 1 else 0 := by
  have htakes : Deed.isTaken settings.deliveryTimeout.toNat ∘ Deed.offer f.record =
      (·.takes settings.deliveryTimeout.toNat) := rfl
  rw [deeds, List.countP_cons, List.countP_map, htakes, h.countP_takes, h.isDelivered_eq]
  simp [Deed.isTaken]

theorem countP_isPop_deeds (f : Fate α) : f.deeds.countP Deed.isPop = 1 := by
  have hoffers : (f.reactions.map (Deed.offer f.record)).countP Deed.isPop = 0 := by
    simp [List.countP_eq_zero, Deed.isPop]
  rw [deeds, List.countP_cons, hoffers]
  rfl

theorem countP_isClose_deeds (f : Fate α) : f.deeds.countP Deed.isClose = 0 := by
  simp [deeds, List.countP_eq_zero, Deed.isClose]

/-- What is seen once in some fates and not at all in the others is seen as often as there are such
fates. -/
theorem countP_flatMap_deeds {p : Deed α → Bool} {q : Fate α → Bool} {fates : List (Fate α)}
    (h : ∀ f ∈ fates, f.deeds.countP p = if q f then 1 else 0) :
    (fates.flatMap deeds).countP p = fates.countP q := by
  induction fates with
  | nil => rfl
  | cons f fates ih =>
    rw [List.flatMap_cons, List.countP_append, h f List.mem_cons_self, List.countP_cons,
      ih fun g hg => h g (List.mem_cons_of_mem f hg), Nat.add_comm]

end Fate

/-! ### Runs of a worker -/

namespace Worker

variable {settings : DeliverySettings} {script : List Reaction} {pushed : List α}
  {trace : List (Deed α)} {w w' : Worker α} {past held : List (Fate α)} {bound n : Nat}
  {outcome : DeliveryOutcome}

/-- What the next event of a worker shows to its queue and its sink. -/
def deeds (w : Worker α) : List (Deed α) :=
  match w.activity with
  | .idle =>
    match w.queue.items with
    | a :: _ => [.pop a, .offer a (nextReaction w.script).1]
    | [] => [.close]
  | .attempting _ _ _ _ => []
  | .backingOff a _ _ => if w.stopping then [] else [.offer a (nextReaction w.script).1]
  | .finished => []

/-- A run of a worker, with the records that were added to its queue and the trace. What is done to
the worker from outside happens in any order and at any time, also in between its own events. -/
inductive Run (settings : DeliverySettings) (script : List Reaction) :
    List α → List (Deed α) → Worker α → Prop
  | new : Run settings script [] [] (.new settings script)
  | push {pushed : List α} {trace : List (Deed α)} {w : Worker α} (a : α)
    (h : Run settings script pushed trace w) : Run settings script (pushed ++ [a]) trace (w.push a)
  | stop {pushed : List α} {trace : List (Deed α)} {w : Worker α}
    (h : Run settings script pushed trace w) : Run settings script pushed trace w.stop
  | close {pushed : List α} {trace : List (Deed α)} {w : Worker α}
    (h : Run settings script pushed trace w) : Run settings script pushed trace w.close
  /-- What is done to a worker that waits happens at the given time. -/
  | clock {pushed : List α} {trace : List (Deed α)} {w : Worker α} (t : Nat)
    (h : Run settings script pushed trace w) :
    Run settings script pushed trace { w with time := t }
  | event {pushed : List α} {trace : List (Deed α)} {w w' : Worker α} (bound : Nat)
    (h : Run settings script pushed trace w) (hstep : w.step? bound = some w') :
    Run settings script pushed (trace ++ w.deeds) w'

/-- What a worker is doing fits to the fate that is not over yet. -/
def Suffers (settings : DeliverySettings) (held : List (Fate α)) : Activity α → Prop
  | .attempting a retries outcome _ =>
    ∃ f, held = [f] ∧ f.record = a ∧ f.Tried settings retries outcome
  | .backingOff a retries _ =>
    ∃ f n, held = [f] ∧ f.record = a ∧ retries = n + 1 ∧ n < settings.maxRetries.toNat ∧
      f.Tried settings n .retryLater
  | .idle => held = []
  | .finished => held = []

/-- The fates of a worker, in order: those that are over, and the one of the record it holds. -/
structure Chronicle (settings : DeliverySettings) (script : List Reaction) (pushed : List α)
    (trace : List (Deed α)) (past held : List (Fate α)) (w : Worker α) : Prop where
  settings_eq : w.settings = settings
  trace_eq : trace = (past ++ held).flatMap Fate.deeds ++
    if w.isFinished then [Deed.close] else []
  attempts_eq : w.attempts.map Attempt.record = trace.filterMap Deed.offered?
  closedAt_isSome : w.closedAt.isSome = w.isFinished
  script_eq : w.script = script.drop ((past ++ held).flatMap Fate.reactions).length
  reactions : ∀ n r, ((past ++ held).flatMap Fate.reactions)[n]? = some r → r = reactionTo script n
  sublist : ((past ++ held).map Fate.record ++ w.queue.items).Sublist pushed
  past_tried : ∀ f ∈ past, ∃ n outcome, f.Tried settings n outcome
  suffers : Suffers settings held w.activity
  delivered_eq : w.delivered = (past.filter (·.isDelivered settings)).map Fate.record
  stats_delivered : w.stats.delivered = w.delivered.length
  length_past : past.length = w.stats.delivered + w.stats.droppedPermanent

theorem chronicle_new (settings : DeliverySettings) (script : List Reaction) :
    Chronicle settings script ([] : List α) [] [] [] (.new settings script) where
  settings_eq := rfl
  trace_eq := rfl
  attempts_eq := rfl
  closedAt_isSome := rfl
  script_eq := rfl
  reactions n r h := by simp at h
  sublist := List.Sublist.refl []
  past_tried f h := by cases h
  suffers := rfl
  delivered_eq := rfl
  stats_delivered := rfl
  length_past := rfl

namespace Chronicle

/-- What is done to the queue makes no difference to the fates, if it leaves the order of the
records as it was. -/
theorem withQueue (h : Chronicle settings script pushed trace past held w) {pushed' : List α}
    (queue : Queue α) (droppedOldest : Nat)
    (hsub : ((past ++ held).map Fate.record ++ queue.items).Sublist pushed') :
    Chronicle settings script pushed' trace past held
      { w with queue, stats.droppedOldest := droppedOldest } :=
  ⟨h.settings_eq, h.trace_eq, h.attempts_eq, h.closedAt_isSome, h.script_eq, h.reactions, hsub,
    h.past_tried, h.suffers, h.delivered_eq, h.stats_delivered, h.length_past⟩

theorem push (h : Chronicle settings script pushed trace past held w) (a : α) :
    Chronicle settings script (pushed ++ [a]) trace past held (w.push a) := by
  have hsub := h.sublist
  cases hclosed : w.queue.closed with
  | true =>
    rw [push_of_closed hclosed]
    exact h.withQueue w.queue _ (hsub.trans (List.sublist_append_left _ _))
  | false =>
    rw [push_of_open hclosed]
    split
    · refine h.withQueue { w.queue with items := w.queue.items.drop 1 ++ [a] } _ ?_
      rw [← List.append_assoc]
      refine List.Sublist.append (List.Sublist.trans ?_ hsub) (List.Sublist.refl [a])
      exact (List.Sublist.refl _).append (List.drop_sublist 1 _)
    · refine h.withQueue { w.queue with items := w.queue.items ++ [a] } _ ?_
      rw [← List.append_assoc]
      exact hsub.append (List.Sublist.refl [a])

theorem stop (h : Chronicle settings script pushed trace past held w) :
    Chronicle settings script pushed trace past held w.stop :=
  ⟨h.settings_eq, h.trace_eq, h.attempts_eq, h.closedAt_isSome, h.script_eq, h.reactions, h.sublist,
    h.past_tried, h.suffers, h.delivered_eq, h.stats_delivered, h.length_past⟩

theorem clock (h : Chronicle settings script pushed trace past held w) (t : Nat) :
    Chronicle settings script pushed trace past held { w with time := t } :=
  ⟨h.settings_eq, h.trace_eq, h.attempts_eq, h.closedAt_isSome, h.script_eq, h.reactions, h.sublist,
    h.past_tried, h.suffers, h.delivered_eq, h.stats_delivered, h.length_past⟩

/-- A record is offered: one that was taken from the queue just now, or the one that was held. -/
theorem offer (h : Chronicle settings script pushed trace past held w)
    (hunfinished : w.isFinished = false) {f : Fate α} {deeds : List (Deed α)} {items : List α}
    {retries : Nat} (t : Nat)
    (hreactions : f.reactions = held.flatMap Fate.reactions ++ [(nextReaction w.script).1])
    (hdeeds : f.deeds = held.flatMap Fate.deeds ++ deeds)
    (hoffered : deeds.filterMap Deed.offered? = [f.record])
    (hrecords : held.map Fate.record ++ w.queue.items = f.record :: items)
    (htried : f.Tried settings retries
      ((nextReaction w.script).1.within w.settings.deliveryTimeout.toNat).1) :
    Chronicle settings script pushed (trace ++ deeds) past [f]
      (({ w with queue.items := items } : Worker α).offer f.record retries t) := by
  have htrace := h.trace_eq
  rw [hunfinished, if_neg Bool.false_ne_true, List.append_nil, List.flatMap_append] at htrace
  have hall : (past ++ [f]).flatMap Fate.reactions =
      (past ++ held).flatMap Fate.reactions ++ [(nextReaction w.script).1] := by
    rw [List.flatMap_append, List.flatMap_append, List.flatMap_singleton, hreactions,
      List.append_assoc]
  -- the sink reacts as its script says, of which so much is used up
  have hnext : (nextReaction w.script).1 =
      reactionTo script ((past ++ held).flatMap Fate.reactions).length := by
    rw [reactionTo, ← h.script_eq]
  refine ⟨h.settings_eq, ?_, ?_, ?_, ?_, ?_, ?_, h.past_tried, ?_, h.delivered_eq,
    h.stats_delivered, h.length_past⟩
  · rw [htrace, List.flatMap_append, List.flatMap_singleton, hdeeds, List.append_assoc]
    exact (List.append_nil _).symm
  · rw [attempts_offer, List.map_append, h.attempts_eq, List.filterMap_append, hoffered]
    rfl
  · have hclosed := h.closedAt_isSome
    rw [hunfinished] at hclosed
    exact hclosed
  · rw [hall, List.length_append, List.length_singleton, ← List.drop_drop, ← h.script_eq]
    exact snd_nextReaction w.script
  · rw [hall, hnext]
    intro n r hr
    rcases Nat.lt_trichotomy n ((past ++ held).flatMap Fate.reactions).length with hlt | rfl | hgt
    · rw [List.getElem?_append_left hlt] at hr
      exact h.reactions n r hr
    · rw [List.getElem?_concat_length] at hr
      exact (Option.some.inj hr).symm
    · rw [List.getElem?_eq_none] at hr
      · cases hr
      · rw [List.length_append, List.length_singleton]
        exact hgt
  · have hsub := h.sublist
    rw [List.map_append, List.append_assoc, hrecords] at hsub
    rw [List.map_append, List.append_assoc]
    exact hsub
  · exact ⟨f, rfl, rfl, htried⟩

/-- The fate of the record that is held is over. It is delivered if its last attempt was, and given
up otherwise. -/
theorem settle {f : Fate α} (h : Chronicle settings script pushed trace past [f] w)
    (hunfinished : w.isFinished = false) (htried : f.Tried settings n outcome) (t : Nat)
    {delivered : List α} {stats : SinkStats} (limiter : WarnLimiter) (warnings : List Warning)
    (hdelivered : delivered = w.delivered ++ if outcome = .delivered then [f.record] else [])
    (hstats : stats.delivered = delivered.length)
    (hsum : stats.delivered + stats.droppedPermanent =
      w.stats.delivered + w.stats.droppedPermanent + 1) :
    Chronicle settings script pushed trace (past ++ [f]) []
      { w with activity := .idle, time := t, delivered, stats, limiter, warnings } := by
  have hall : past ++ [f] ++ [] = past ++ [f] := List.append_nil _
  refine ⟨h.settings_eq, ?_, h.attempts_eq, ?_, ?_, ?_, ?_, ?_, rfl, ?_, hstats, ?_⟩
  · rw [h.trace_eq, hunfinished, hall]
    rfl
  · exact h.closedAt_isSome.trans hunfinished
  · rw [hall]
    exact h.script_eq
  · rw [hall]
    exact h.reactions
  · rw [hall]
    exact h.sublist
  · intro g hg
    rw [List.mem_append, List.mem_singleton] at hg
    rcases hg with hg | rfl
    · exact h.past_tried g hg
    · exact ⟨n, outcome, htried⟩
  · rw [List.filter_append, List.map_append, ← h.delivered_eq, hdelivered, List.filter_singleton,
      htried.isDelivered_eq]
    by_cases houtcome : outcome = .delivered
    · simp [houtcome]
    · simp [houtcome]
  · rw [hsum, ← h.length_past, List.length_append, List.length_singleton]

/-- The record that is held is given up after an attempt that it was not delivered by. -/
theorem giveUp {f : Fate α} (h : Chronicle settings script pushed trace past [f] w)
    (hunfinished : w.isFinished = false) (htried : f.Tried settings n outcome)
    (houtcome : outcome ≠ .delivered) (reason : GiveUp) (t : Nat) :
    Chronicle settings script pushed trace (past ++ [f]) [] (w.giveUp reason t) := by
  refine h.settle hunfinished htried t _ _ ?_ h.stats_delivered rfl
  rw [if_neg houtcome, List.append_nil]

/-- Every event keeps the chronicle: it is offered a record, or the fate of the record that it holds
is over. -/
theorem event (h : Chronicle settings script pushed trace past held w)
    (hstep : w.step? bound = some w') :
    ∃ past' held', Chronicle settings script pushed (trace ++ w.deeds) past' held' w' := by
  have hsuffers := h.suffers
  cases event_of_step? hstep with
  | take a rest hidle _ hitems =>
    rw [hidle] at hsuffers
    obtain rfl : held = [] := hsuffers
    rw [deeds, hidle, hitems]
    refine ⟨past, _, h.offer ?_ (f := ⟨a, [(nextReaction w.script).1]⟩) w.time rfl rfl rfl ?_ ?_⟩
    · rw [isFinished, hidle]
    · rw [hitems]
      rfl
    · rw [h.settings_eq]
      exact Fate.tried_singleton settings a _
  | finish hidle _ hitems =>
    rw [hidle] at hsuffers
    obtain rfl : held = [] := hsuffers
    have hunfinished : w.isFinished = false := by rw [isFinished, hidle]
    have htrace := h.trace_eq
    rw [hunfinished, if_neg Bool.false_ne_true, List.append_nil] at htrace
    rw [deeds, hidle, hitems]
    refine ⟨past, [], h.settings_eq, ?_, ?_, rfl, h.script_eq, h.reactions, h.sublist, h.past_tried,
      rfl, h.delivered_eq, h.stats_delivered, h.length_past⟩
    · rw [htrace]
      rfl
    · rw [List.filterMap_append, ← h.attempts_eq]
      exact (List.append_nil _).symm
  | deliver a retries ends hact =>
    rw [hact] at hsuffers
    obtain ⟨f, rfl, rfl, htried⟩ := hsuffers
    rw [deeds, hact, List.append_nil]
    refine ⟨past ++ [f], [], h.settle ?_ htried ends _ _ rfl ?_ ?_⟩
    · rw [isFinished, hact]
    · rw [List.length_append, ← h.stats_delivered]
      rfl
    · exact Nat.add_right_comm _ _ _
  | giveUp a retries outcome ends reason hact _ hreason =>
    rw [hact] at hsuffers
    obtain ⟨f, rfl, rfl, htried⟩ := hsuffers
    rw [deeds, hact, List.append_nil]
    refine ⟨past ++ [f], [], h.giveUp ?_ htried ?_ reason ends⟩
    · rw [isFinished, hact]
    · rcases hreason with ⟨rfl, -⟩ | ⟨rfl, -⟩ | ⟨rfl, -⟩ <;> exact DeliveryOutcome.noConfusion
  | backOff a retries ends hact _ _ hretries =>
    rw [hact] at hsuffers
    obtain ⟨f, rfl, rfl, htried⟩ := hsuffers
    rw [h.settings_eq] at hretries
    have htrace := h.trace_eq
    have hclosed := h.closedAt_isSome
    rw [isFinished, hact] at htrace hclosed
    rw [deeds, hact, List.append_nil]
    exact ⟨past, [f], h.settings_eq, htrace, h.attempts_eq, hclosed, h.script_eq, h.reactions,
      h.sublist, h.past_tried, ⟨f, retries, rfl, rfl, rfl, hretries, htried⟩, h.delivered_eq,
      h.stats_delivered, h.length_past⟩
  | abandon a retries ends hact hstopping =>
    rw [hact] at hsuffers
    obtain ⟨f, n, rfl, rfl, rfl, -, htried⟩ := hsuffers
    have hdeeds : w.deeds = [] := by simp [deeds, hact, hstopping]
    rw [hdeeds, List.append_nil]
    refine ⟨past ++ [f], [], h.giveUp ?_ htried DeliveryOutcome.noConfusion .stopping w.time⟩
    rw [isFinished, hact]
  | retry a retries ends hact hstopping =>
    rw [hact] at hsuffers
    obtain ⟨f, n, rfl, rfl, rfl, hn, htried⟩ := hsuffers
    have hdeeds : w.deeds = [.offer f.record (nextReaction w.script).1] := by
      simp [deeds, hact, hstopping]
    rw [hdeeds]
    refine ⟨past, _, h.offer ?_ (f := ⟨f.record, f.reactions ++ [(nextReaction w.script).1]⟩) ends
      ?_ ?_ rfl rfl ?_⟩
    · rw [isFinished, hact]
    · rw [List.flatMap_singleton]
    · rw [List.flatMap_singleton, Fate.deeds, Fate.deeds, List.map_append]
      rfl
    · rw [h.settings_eq]
      exact htried.concat hn _

end Chronicle

/-- Every run has a chronicle. -/
theorem Run.exists_chronicle (h : Run settings script pushed trace w) :
    ∃ past held, Chronicle settings script pushed trace past held w := by
  induction h with
  | new => exact ⟨[], [], chronicle_new settings script⟩
  | push a _ ih =>
    obtain ⟨past, held, h⟩ := ih
    exact ⟨past, held, h.push a⟩
  | stop _ ih =>
    obtain ⟨past, held, h⟩ := ih
    exact ⟨past, held, h.stop⟩
  | close _ ih =>
    obtain ⟨past, held, h⟩ := ih
    exact ⟨past, held, h.withQueue _ _ h.sublist⟩
  | clock t _ ih =>
    obtain ⟨past, held, h⟩ := ih
    exact ⟨past, held, h.clock t⟩
  | event bound _ hstep ih =>
    obtain ⟨past, held, h⟩ := ih
    exact h.event hstep

/-- A worker that has finished has popped its records in the order of its queue and offered each of
them before the next one: at least once, at most so many times as it may be retried beyond that, and
never again once the sink took or rejected it. The sink reacts to the attempts as its script says.
Every record that was popped counts either as delivered, if its last attempt was answered so in
time, or as given up. The sink is closed once, after the last attempt. -/
theorem fates_of_run (h : Run settings script pushed trace w) (hend : w.isFinished = true) :
    ∃ fates : List (Fate α),
      trace = fates.flatMap Fate.deeds ++ [.close] ∧ trace.countP Deed.isClose = 1 ∧
      (fates.map Fate.record).Sublist pushed ∧
      (∀ n r, (fates.flatMap Fate.reactions)[n]? = some r → r = reactionTo script n) ∧
      (∀ f ∈ fates, ∃ retries last, f.reactions = retries ++ [last] ∧
        retries.length ≤ settings.maxRetries.toNat ∧
        ∀ r ∈ retries, (r.within settings.deliveryTimeout.toNat).1 = .retryLater) ∧
      w.stats.delivered + w.stats.droppedPermanent = trace.countP Deed.isPop ∧
      w.stats.delivered = trace.countP (Deed.isTaken settings.deliveryTimeout.toNat) ∧
      w.delivered = (fates.filter (·.isDelivered settings)).map Fate.record ∧
      w.attempts.map Attempt.record = trace.filterMap Deed.offered? ∧ w.closedAt.isSome := by
  obtain ⟨fates, held, hchronicle⟩ := h.exists_chronicle
  have hact : w.activity = .finished := by
    unfold isFinished at hend
    split at hend
    · assumption
    · cases hend
  have hsuffers := hchronicle.suffers
  rw [hact] at hsuffers
  obtain rfl : held = [] := hsuffers
  have htrace := hchronicle.trace_eq
  rw [hend, if_pos rfl, List.append_nil] at htrace
  have hreactions := hchronicle.reactions
  have hsub := hchronicle.sublist
  rw [List.append_nil] at hreactions hsub
  refine ⟨fates, htrace, ?_, (List.sublist_append_left _ _).trans hsub, hreactions, ?_, ?_, ?_,
    hchronicle.delivered_eq, hchronicle.attempts_eq, hchronicle.closedAt_isSome.trans hend⟩
  · have hcount := Fate.countP_flatMap_deeds (q := fun _ => false)
      fun f (_ : f ∈ fates) => f.countP_isClose_deeds
    rw [htrace, List.countP_append, hcount, List.countP_false]
    rfl
  · intro f hf
    obtain ⟨n, outcome, hle, retries, last, heq, rfl, -, hretries⟩ := hchronicle.past_tried f hf
    exact ⟨retries, last, heq, hle, hretries⟩
  · have hcount := Fate.countP_flatMap_deeds (q := fun _ => true)
      fun f (_ : f ∈ fates) => f.countP_isPop_deeds
    rw [htrace, List.countP_append, hcount, List.countP_true, hchronicle.length_past]
    rfl
  · have hcount := Fate.countP_flatMap_deeds (q := (·.isDelivered settings))
      fun f hf => by
        obtain ⟨n, outcome, htried⟩ := hchronicle.past_tried f hf
        exact htried.countP_isTaken
    rw [htrace, List.countP_append, hcount, hchronicle.stats_delivered, hchronicle.delivered_eq,
      List.length_map, List.countP_eq_length_filter]
    rfl

/-! ### A sink with moods -/

/-- The reactions of a sink that fails twice, rejects and then takes what it is offered. -/
def moods : List Reaction :=
  [.answer .retryLater 3, .hang, .answer .dropPermanent 1]

/-- Of three records the first one is offered twice and given up, the second one is rejected and the
third one is delivered. -/
theorem exists_run_moods : ∃ w : Worker Nat,
    Run { maxRetries := 1 } moods [1, 2, 3]
      [.pop 1, .offer 1 (.answer .retryLater 3), .offer 1 .hang, .pop 2,
        .offer 2 (.answer .dropPermanent 1), .pop 3, .offer 3 (.answer .delivered 0), .close] w ∧
      w.isFinished = true := by
  have hnew : Run { maxRetries := 1 } moods [] [] (.new { maxRetries := 1 } moods) :=
    .new (α := Nat)
  have hpushed := (((hnew.push 1).push 2).push 3).close
  have htwice := (((hpushed.event 10 rfl).event 10 rfl).event 1000 rfl).event 10000 rfl
  have hrejected := (htwice.event 10000 rfl).event 10000 rfl
  have hdelivered := (hrejected.event 10000 rfl).event 10000 rfl
  exact ⟨_, hdelivered.event 10000 rfl, rfl⟩

/-- So one of three records was delivered, and the others were given up. -/
theorem delivered_of_moods : ∃ (w : Worker Nat) (trace : List (Deed Nat)),
    Run { maxRetries := 1 } moods [1, 2, 3] trace w ∧ w.isFinished = true ∧
      w.stats.delivered = 1 ∧ w.stats.delivered + w.stats.droppedPermanent = 3 := by
  obtain ⟨w, hrun, hend⟩ := exists_run_moods
  obtain ⟨-, -, -, -, -, -, hsum, htaken, -⟩ := fates_of_run hrun hend
  exact ⟨w, _, hrun, hend, htaken.trans (by decide), hsum.trans (by decide)⟩

end Worker

/-! ### The lanes of a dispatcher -/

/-- Every lane of a dispatcher runs as a worker does, whatever the other lanes do. -/
theorem Dispatcher.Run.exists_worker_run {settings : DeliverySettings}
    {sinks : List (String × List Reaction)} {calls : List (Dispatcher.Call α)}
    {stopped : Option Nat} {d : Dispatcher α} (h : Dispatcher.Run settings sinks calls stopped d)
    {i : Nat} {l : Lane α} (hl : d.lanes[i]? = some l) :
    ∃ sink pushed trace, sinks[i]? = some sink ∧
      Worker.Run settings sink.2 pushed trace l.worker := by
  induction h generalizing l with
  | new =>
    obtain ⟨sink, hsink, rfl⟩ := Option.map_eq_some_iff.mp (List.getElem?_map.symm.trans hl)
    exact ⟨sink, [], [], hsink, .new⟩
  | dispatch a _ ih =>
    rw [Dispatcher.dispatch, getElem?_mapWorkers, Option.map_eq_some_iff] at hl
    obtain ⟨l', hl', rfl⟩ := hl
    obtain ⟨sink, pushed, trace, hsink, hrun⟩ := ih hl'
    exact ⟨sink, _, trace, hsink, hrun.push a⟩
  | stop _ ih =>
    rw [getElem?_mapWorkers, Option.map_eq_some_iff] at hl
    obtain ⟨l', hl', rfl⟩ := hl
    obtain ⟨sink, pushed, trace, hsink, hrun⟩ := ih hl'
    exact ⟨sink, pushed, trace, hsink, hrun.stop⟩
  | close k _ ih =>
    rw [getElem?_mapLane] at hl
    by_cases hk : k = i
    · rw [if_pos hk, Option.map_eq_some_iff] at hl
      obtain ⟨l', hl', rfl⟩ := hl
      obtain ⟨sink, pushed, trace, hsink, hrun⟩ := ih hl'
      exact ⟨sink, pushed, trace, hsink, hrun.close⟩
    · rw [if_neg hk] at hl
      exact ih hl
  | event k bound _ hl' hstep ih =>
    rw [getElem?_mapLane] at hl
    by_cases hk : k = i
    · subst hk
      rw [if_pos rfl, hl', Option.map_some, Option.some.injEq] at hl
      subst hl
      obtain ⟨sink, pushed, trace, hsink, hrun⟩ := ih hl'
      exact ⟨sink, pushed, _, hsink, hrun.event bound hstep⟩
    · rw [if_neg hk] at hl
      exact ih hl
  | clock t _ ih =>
    rw [getElem?_mapWorkers, Option.map_eq_some_iff] at hl
    obtain ⟨l', hl', rfl⟩ := hl
    obtain ⟨sink, pushed, trace, hsink, hrun⟩ := ih hl'
    exact ⟨sink, pushed, trace, hsink, hrun.clock t⟩
  | pass _ _ _ ih => exact ih hl

end FlowAudit.Delivery
