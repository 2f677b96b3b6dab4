import FlowAudit.Proofs.Delivery.Accesses

/-!
# No wake-up is lost

A consumer that pops looks at the queue, and waits if it finds nothing; a producer changes the queue
first and notifies the consumer afterwards. An `Exchange` takes all of these for steps of their own,
so producers may do anything between the look of the consumer and its waiting, and the consumer
anything between a change and its notification. A notification wakes the consumer if it waits, and
is kept as a permit otherwise; there is one permit at most, and it ends the next waiting at once.

`Exchange.Path` is what can happen, in any order. The steps that see the queue are accesses to it,
so a path inherits all that is known of these (`Path.queue_eq`). In every state that can be reached,
a consumer that is about to wait or waits although there is something to take has a notification
coming or kept (`Attentive`).

A `Mailbox` is an exchange whose steps follow each other without a pause (`Mailbox.Reachable.path`).
-/

namespace FlowAudit.Delivery

variable {α : Type}

/-- What the consumer of a queue is about to do. -/
inductive Stage where
  /-- It pops nothing. -/
  | away
  /-- It pops, and is going to look at the queue. -/
  | looking
  /-- It has found nothing, and is going to wait. -/
  | settling
  /-- It waits to be notified. -/
  | waiting
  deriving DecidableEq, Repr

/-- How many steps the consumer is away from looking at the queue, at most. -/
def Stage.rank : Stage → Nat
  | .away => 0
  | .looking => 0
  | .waiting => 1
  | .settling => 2

/-- A queue with its consumer, and the notifications that its producers still have to send. -/
structure Exchange (α : Type) where
  queue : Queue α
  stage : Stage
  permit : Bool
  owed : Nat
  deriving DecidableEq, Repr

namespace Queue.Taken

def isNothing : Queue.Taken α → Bool
  | .nothing => true
  | _ => false

def item? : Queue.Taken α → Option α
  | .item a => some a
  | _ => none

theorem eq_nothing {taken : Queue.Taken α} (h : taken.isNothing = true) : taken = .nothing := by
  cases taken with
  | nothing => rfl
  | item a | finished => cases h

/-- What a pop is answered that does not wait. -/
def answer? (taken : Queue.Taken α) : Option (Queue.Taken α) :=
  if taken.isNothing then none else some taken

end Queue.Taken

namespace Exchange

variable {x y z : Exchange α} {capacity : Nat}

/-- An empty queue whose consumer pops nothing. -/
def new (capacity : Nat) : Exchange α :=
  ⟨.empty capacity, .away, false, 0⟩

/-- Whether a pop has found nothing and is not answered yet. -/
def Pending (x : Exchange α) : Prop :=
  x.stage = .settling ∨ x.stage = .waiting

/-- Whether there is nothing to take, but there may be later. -/
def Bare (x : Exchange α) : Prop :=
  x.queue.items = [] ∧ x.queue.closed = false

/-! ### Steps -/

/-- What happens in one step, with what is answered. -/
inductive Act (α : Type) where
  | push (a : α) (outcome : PushOutcome)
  | close
  | notify
  | ask
  | look (taken : Queue.Taken α)
  | settle
  deriving DecidableEq, Repr

namespace Act

/-- Whether a producer changes the queue. -/
def isUpdate : Act α → Bool
  | .push _ _ => true
  | .close => true
  | _ => false

/-- Whether a pop is answered. -/
def isAnswer : Act α → Bool
  | .look taken => !taken.isNothing
  | _ => false

def answer? : Act α → Option (Queue.Taken α)
  | .look taken => taken.answer?
  | _ => none

/-- The record that is added to the queue. -/
def added? : Act α → Option α
  | .push _ .closed => none
  | .push a _ => some a
  | _ => none

def outcome? : Act α → Option PushOutcome
  | .push _ outcome => some outcome
  | _ => none

/-- The record that a pop is answered. -/
def popped? : Act α → Option α
  | .look taken => taken.item?
  | _ => none

def access? : Act α → Option (Queue.Access α)
  | .push a _ => some (.push a)
  | .close => some .close
  | .look _ => some .pop
  | _ => none

end Act

/-- What the consumer does when it has looked at the queue. -/
def stageAfter (taken : Queue.Taken α) : Stage :=
  if taken.isNothing then .settling else .away

/-- What can happen to an exchange. -/
inductive Step (x : Exchange α) : Act α → Exchange α → Prop
  /-- Who pushed a record owes a notification if the record was taken in. -/
  | push (a : α) : Step x (.push a (x.queue.push a).1) { x with
      queue := (x.queue.push a).2
      owed := if (x.queue.push a).1 = .closed then x.owed else x.owed + 1 }
  | close : Step x .close { x with queue := x.queue.close, owed := x.owed + 1 }
  | wake (n : Nat) (howed : x.owed = n + 1) (hstage : x.stage = .waiting) :
    Step x .notify { x with stage := .looking, owed := n }
  | keep (n : Nat) (howed : x.owed = n + 1) (hstage : x.stage ≠ .waiting) :
    Step x .notify { x with permit := true, owed := n }
  | ask (hstage : x.stage = .away) : Step x .ask { x with stage := .looking }
  | look (hstage : x.stage = .looking) : Step x (.look x.queue.take.1) { x with
      queue := x.queue.take.2
      stage := stageAfter x.queue.take.1 }
  /-- A permit ends the waiting at once. -/
  | resume (hstage : x.stage = .settling) (hpermit : x.permit = true) :
    Step x .settle { x with stage := .looking, permit := false }
  | wait (hstage : x.stage = .settling) (hpermit : x.permit = false) :
    Step x .settle { x with stage := .waiting }

theorem Step.look_of_take (hstage : x.stage = .looking) {taken : Queue.Taken α} {queue : Queue α}
    (htake : x.queue.take = (taken, queue)) :
    Step x (.look taken) { x with queue, stage := stageAfter taken } := by
  have hlook := Step.look hstage
  rwa [htake] at hlook

theorem Step.push_of_eq {a : α} {outcome : PushOutcome} {queue : Queue α}
    (hpush : x.queue.push a = (outcome, queue)) : Step x (.push a outcome) { x with
      queue
      owed := if outcome = .closed then x.owed else x.owed + 1 } := by
  have hstep := Step.push (x := x) a
  rwa [hpush] at hstep

/-- Any steps, one after the other. -/
inductive Path (x : Exchange α) : List (Act α) → Exchange α → Prop
  | start : Path x [] x
  | step {acts : List (Act α)} {act : Act α} {y z : Exchange α} (h : Path x acts y)
    (hstep : Step y act z) : Path x (acts ++ [act]) z

theorem Step.path {act : Act α} (hstep : Step x act y) : Path x [act] y :=
  Path.start.step hstep

theorem Path.trans {acts acts' : List (Act α)} (h : Path x acts y) (h' : Path y acts' z) :
    Path x (acts ++ acts') z := by
  induction h' with
  | start => rwa [List.append_nil]
  | step _ hstep ih =>
    rw [← List.append_assoc]
    exact ih.step hstep

/-! ### The queue of an exchange -/

/-- The accesses that the queue sees. -/
def accesses (acts : List (Act α)) : List (Queue.Access α) :=
  acts.filterMap Act.access?

/-- The queue sees at most one access in a step, which gives what the step says. -/
theorem Step.queue_eq {act : Act α} (hstep : Step x act y) :
    y.queue = x.queue.after act.access?.toList := by
  cases hstep <;> rfl

theorem Step.added_eq {act : Act α} (hstep : Step x act y) :
    act.added?.toList = x.queue.accepted act.access?.toList := by
  cases hstep with
  | push a =>
    show _ = x.queue.added (.push a) ++ []
    cases houtcome : (x.queue.push a).1 <;> simp [Act.added?, Queue.added, houtcome]
  | close | wake | keep | ask | look | resume | wait => rfl

theorem Step.outcome_eq {act : Act α} (hstep : Step x act y) :
    act.outcome?.toList = Queue.along Queue.outcomes x.queue act.access?.toList := by
  cases hstep <;> rfl

theorem Step.popped_eq {act : Act α} (hstep : Step x act y) : act.popped?.toList =
    (x.queue.removals act.access?.toList).filterMap Queue.Removal.popped? := by
  cases hstep with
  | push a =>
    show [] = (x.queue.removed (.push a) ++ []).filterMap Queue.Removal.popped?
    simp only [Queue.removed]
    split <;> rfl
  | look =>
    show _ = (x.queue.removed .pop ++ []).filterMap Queue.Removal.popped?
    simp only [Queue.removed, Act.popped?]
    cases x.queue.take.1 <;> rfl
  | close | wake | keep | ask | resume | wait => rfl

theorem filterMap_singleton {β : Type} (g : Act α → Option β) (act : Act α) :
    [act].filterMap g = (g act).toList := by
  cases hg : g act <;> simp [hg]

theorem accesses_concat (acts : List (Act α)) (act : Act α) :
    accesses (acts ++ [act]) = accesses acts ++ act.access?.toList := by
  rw [accesses, List.filterMap_append, filterMap_singleton]
  rfl

variable {acts : List (Act α)}

theorem Path.queue_eq (h : Path x acts y) : y.queue = x.queue.after (accesses acts) := by
  induction h with
  | start => rfl
  | step _ hstep ih => rw [hstep.queue_eq, ih, accesses_concat, Queue.after_append]

theorem Path.added_eq (h : Path x acts y) :
    acts.filterMap Act.added? = x.queue.accepted (accesses acts) := by
  induction h with
  | start => rfl
  | step h hstep ih =>
    rw [List.filterMap_append, filterMap_singleton, hstep.added_eq, ih, h.queue_eq, accesses_concat]
    exact (Queue.along_append _ _ _ _).symm

theorem Path.outcomes_eq (h : Path x acts y) :
    acts.filterMap Act.outcome? = Queue.along Queue.outcomes x.queue (accesses acts) := by
  induction h with
  | start => rfl
  | step h hstep ih =>
    rw [List.filterMap_append, filterMap_singleton, hstep.outcome_eq, ih, h.queue_eq,
      accesses_concat]
    exact (Queue.along_append _ _ _ _).symm

theorem Path.popped_eq (h : Path x acts y) : acts.filterMap Act.popped? =
    (x.queue.removals (accesses acts)).filterMap Queue.Removal.popped? := by
  induction h with
  | start => rfl
  | step h hstep ih =>
    rw [List.filterMap_append, filterMap_singleton, hstep.popped_eq, ih, h.queue_eq,
      accesses_concat, ← List.filterMap_append]
    exact congrArg _ (Queue.along_append _ _ _ _).symm

/-- What producers added is what the queue gave away and what it holds; the pops were answered what
it gave away to them, and each record that it dropped was answered to a push. -/
theorem Path.exists_removals (hsound : x.queue.Sound) (h : Path x acts y) :
    ∃ removals : List (Queue.Removal α),
      x.queue.items ++ acts.filterMap Act.added? =
        removals.map Queue.Removal.record ++ y.queue.items ∧
      removals.filterMap Queue.Removal.popped? = acts.filterMap Act.popped? ∧
      (removals.filterMap Queue.Removal.dropped?).length =
        (acts.filterMap Act.outcome?).count .droppedOldest := by
  refine ⟨x.queue.removals (accesses acts), ?_, h.popped_eq.symm, ?_⟩
  · rw [h.added_eq, h.queue_eq]
    exact hsound.accepted_eq (accesses acts)
  · rw [h.outcomes_eq]
    exact hsound.length_dropped_removals (accesses acts)

theorem Path.sound (h : Path (new capacity) acts x) : x.queue.Sound := by
  rw [h.queue_eq]
  exact Queue.sound_reached capacity (accesses acts)

/-! ### A consumer that waits -/

/-- A consumer that is about to wait or waits although there is something to take, or nothing to
come any more, is going to be notified. No permit is kept while it waits. -/
structure Attentive (x : Exchange α) : Prop where
  permit_of_waiting : x.stage = .waiting → x.permit = false
  notified : x.Pending → ¬ x.Bare → x.permit = true ∨ 0 < x.owed

theorem attentive_new (capacity : Nat) : (new capacity : Exchange α).Attentive where
  permit_of_waiting h := by cases h
  notified h := by rcases h with h | h <;> cases h

theorem bare_of_isNothing {q : Queue α} (h : q.take.1.isNothing = true) :
    q.items = [] ∧ q.closed = false := by
  obtain ⟨hclosed, hitems⟩ := Queue.take_eq_nothing_iff.mp (Queue.Taken.eq_nothing h)
  exact ⟨hitems, hclosed⟩

theorem Attentive.step {act : Act α} (h : x.Attentive) (hstep : Step x act y) : y.Attentive := by
  cases hstep with
  | push a =>
    refine ⟨h.permit_of_waiting, fun hpending hbare => ?_⟩
    by_cases houtcome : (x.queue.push a).1 = .closed
    · -- a record that is not taken in leaves the queue as it was
      have hclosed := Queue.fst_push_eq_closed_iff.mp houtcome
      have hbare' : ¬ x.Bare := fun hb => by
        rw [hb.2] at hclosed
        cases hclosed
      simpa only [houtcome, if_true] using h.notified hpending hbare'
    · simp only [houtcome, if_false]
      exact .inr (Nat.succ_pos _)
  | close => exact ⟨h.permit_of_waiting, fun _ _ => .inr (Nat.succ_pos _)⟩
  | wake n howed hstage =>
    refine ⟨fun hw => (by cases hw), fun hpending => ?_⟩
    rcases hpending with hp | hp <;> cases hp
  | keep n howed hstage => exact ⟨fun hw => absurd hw hstage, fun _ _ => .inl rfl⟩
  | ask hstage | resume hstage hpermit =>
    refine ⟨fun hw => (by cases hw), fun hpending => ?_⟩
    rcases hpending with hp | hp <;> cases hp
  | look hstage =>
    cases htaken : x.queue.take.1.isNothing with
    | true =>
      -- the consumer goes on to wait when there is nothing to take only
      have hbare := bare_of_isNothing htaken
      have hqueue : x.queue.take.2 = x.queue := by rw [Queue.take_of_nil hbare.1]
      refine ⟨fun hw => ?_, fun _ hnot => ?_⟩
      · simp [stageAfter, htaken] at hw
      · rw [hqueue] at hnot
        exact absurd hbare hnot
    | false =>
      refine ⟨fun hw => ?_, fun hpending => ?_⟩
      · simp [stageAfter, htaken] at hw
      · rcases hpending with hp | hp <;> simp [stageAfter, htaken] at hp
  | wait hstage hpermit => exact ⟨fun _ => hpermit, fun _ => h.notified (.inl hstage)⟩

theorem Attentive.path (h : x.Attentive) (hpath : Path x acts y) : y.Attentive := by
  induction hpath with
  | start => exact h
  | step _ hstep ih => exact ih.step hstep

/-- No wake-up is lost: when no notification is kept or still to come, a consumer waits only because
there is nothing to take. -/
theorem Path.bare (h : Path (new capacity) acts x) (hpending : x.Pending)
    (hpermit : x.permit = false) (howed : x.owed = 0) : x.Bare := by
  by_contra hbare
  rcases ((attentive_new capacity).path h).notified hpending hbare with hp | ho
  · rw [hpermit] at hp
    cases hp
  · omega

/-! ### A pop that waits is answered -/

/-- As long as no pop is answered, the consumer is at the same pop. -/
theorem Path.stage_ne_away (h : Path x acts y) (hstage : x.stage ≠ .away)
    (hanswer : ∀ act ∈ acts, act.isAnswer = false) : y.stage ≠ .away := by
  induction h with
  | start => exact hstage
  | @step acts act y z _ hstep ih =>
    have hy := ih fun act hact => hanswer act (List.mem_append_left _ hact)
    have hact := hanswer act (List.mem_append_right _ (List.mem_singleton_self _))
    cases hstep with
    | push | close | keep => exact hy
    | wake | ask | resume | wait => exact Stage.noConfusion
    | look =>
      have htaken : y.queue.take.1.isNothing = true := by simpa [Act.isAnswer] using hact
      simp [stageAfter, htaken]

/-- A record that was taken in is there as long as no pop is answered, or another one is. -/
theorem Path.added_eq_nil (h : Path x acts y) (hanswer : ∀ act ∈ acts, act.isAnswer = false)
    (hitems : y.queue.items = []) : acts.filterMap Act.added? = [] := by
  induction h with
  | start => rfl
  | @step acts act y z _ hstep ih =>
    have ih := ih fun act hact => hanswer act (List.mem_append_left _ hact)
    have hact := hanswer act (List.mem_append_right _ (List.mem_singleton_self _))
    rw [List.filterMap_append, filterMap_singleton, List.append_eq_nil_iff]
    cases hstep with
    | push a =>
      cases houtcome : (y.queue.push a).1 with
      | closed =>
        rw [Queue.push_of_closed (Queue.fst_push_eq_closed_iff.mp houtcome)] at hitems
        exact ⟨ih hitems, rfl⟩
      | queued | droppedOldest =>
        -- what is pushed to an open queue is in it
        exfalso
        simp only [Queue.push] at houtcome hitems
        split at houtcome
        · cases houtcome
        · rename_i hopen
          rw [if_neg hopen] at hitems
          split at hitems <;> simp at hitems
    | look =>
      have htaken : y.queue.take.1.isNothing = true := by simpa [Act.isAnswer] using hact
      obtain ⟨hbare, -⟩ := bare_of_isNothing htaken
      exact ⟨ih hbare, rfl⟩
    | close | wake | keep | ask | resume | wait => exact ⟨ih hitems, rfl⟩

theorem close_mem_accesses_iff : .close ∈ accesses acts ↔ .close ∈ acts := by
  rw [accesses, List.mem_filterMap]
  constructor
  · rintro ⟨act, hact, haccess⟩
    cases act with
    | close => exact hact
    | push | notify | ask | look | settle => cases haccess
  · exact fun hclose => ⟨.close, hclose, rfl⟩

theorem Path.closed_iff (h : Path x acts y) :
    y.queue.closed = true ↔ x.queue.closed = true ∨ .close ∈ acts := by
  rw [h.queue_eq, Queue.closed_after, close_mem_accesses_iff]

/-- After a push that was taken in, or the end of the queue, there is something to answer a pop. -/
theorem Path.not_bare (h : Path x acts y) (hanswer : ∀ act ∈ acts, act.isAnswer = false)
    (hupdate : acts.filterMap Act.added? ≠ [] ∨ .close ∈ acts) : ¬ y.Bare := by
  rintro ⟨hitems, hopen⟩
  rcases hupdate with hadded | hclose
  · exact hadded (h.added_eq_nil hanswer hitems)
  · rw [h.closed_iff.mpr (.inr hclose)] at hopen
    cases hopen

/-- When there is something to answer, the consumer or a notification can go on. -/
theorem Attentive.exists_step (h : x.Attentive) (hstage : x.stage ≠ .away) (hbare : ¬ x.Bare) :
    ∃ act y, act.isUpdate = false ∧ Step x act y := by
  cases hx : x.stage with
  | away => exact absurd hx hstage
  | looking => exact ⟨_, _, rfl, .look hx⟩
  | settling =>
    cases hpermit : x.permit with
    | true => exact ⟨_, _, rfl, .resume hx hpermit⟩
    | false => exact ⟨_, _, rfl, .wait hx hpermit⟩
  | waiting =>
    have howed : 0 < x.owed := by
      rcases h.notified (.inr hx) hbare with hpermit | howed
      · rw [h.permit_of_waiting hx] at hpermit
        cases hpermit
      · exact howed
    exact ⟨_, _, rfl, .wake (x.owed - 1) (by omega) hx⟩

/-- Each of these steps brings the answer closer. -/
theorem Step.rank_lt {act : Act α} (hstep : Step x act y) (hstage : x.stage ≠ .away)
    (hbare : ¬ x.Bare) (hupdate : act.isUpdate = false) (hanswer : act.isAnswer = false) :
    y.owed + y.stage.rank < x.owed + x.stage.rank ∧ y.stage ≠ .away ∧ ¬ y.Bare := by
  cases hstep with
  | push | close => cases hupdate
  | wake n howed hx =>
    refine ⟨?_, Stage.noConfusion, hbare⟩
    simp only [howed, hx, Stage.rank]
    omega
  | keep n howed hx =>
    refine ⟨?_, hstage, hbare⟩
    simp only [howed]
    omega
  | ask hx => exact absurd hx hstage
  | look hx =>
    have htaken : x.queue.take.1.isNothing = true := by simpa [Act.isAnswer] using hanswer
    exact absurd (bare_of_isNothing htaken) hbare
  | resume hx | wait hx =>
    refine ⟨?_, Stage.noConfusion, hbare⟩
    simp [hx, Stage.rank]

theorem Path.length_le (h : Path x acts y) (hstage : x.stage ≠ .away) (hbare : ¬ x.Bare)
    (hact : ∀ act ∈ acts, act.isUpdate = false ∧ act.isAnswer = false) :
    acts.length + (y.owed + y.stage.rank) ≤ x.owed + x.stage.rank ∧
      y.stage ≠ .away ∧ ¬ y.Bare := by
  induction h with
  | start => exact ⟨Nat.le_of_eq (Nat.zero_add _), hstage, hbare⟩
  | step _ hstep ih =>
    obtain ⟨hle, hy, hb⟩ := ih fun act h => hact act (List.mem_append_left _ h)
    obtain ⟨hupdate, hanswer⟩ := hact _ (List.mem_append_right _ (List.mem_singleton_self _))
    obtain ⟨hlt, hz, hb'⟩ := hstep.rank_lt hy hb hupdate hanswer
    refine ⟨?_, hz, hb'⟩
    rw [List.length_append, List.length_singleton]
    omega

/-- The answer to a pop that found nothing is the oldest record that was taken in since and not
dropped for a later one, or the end of the queue if nothing was taken in. -/
theorem Path.taken_eq (h : Path x acts y) (hsound : x.queue.Sound) (hbare : x.Bare)
    (hanswer : ∀ act ∈ acts, act.isAnswer = false)
    (hupdate : acts.filterMap Act.added? ≠ [] ∨ .close ∈ acts) :
    (acts.filterMap Act.added? = [] ∧ y.queue.take.1 = .finished) ∨
    ∃ dropped a rest, acts.filterMap Act.added? = dropped ++ a :: rest ∧
      dropped.length = (acts.filterMap Act.outcome?).count .droppedOldest ∧
      y.queue.take.1 = .item a := by
  obtain ⟨removals, hadded, hpopped, hdropped⟩ := h.exists_removals hsound
  rw [hbare.1, List.nil_append] at hadded
  -- no pop was answered, so what left the queue was dropped
  have hnone : acts.filterMap Act.popped? = [] := by
    rw [List.filterMap_eq_nil_iff]
    intro act hact
    have hno := hanswer act hact
    cases act with
    | look taken =>
      cases taken with
      | item a => cases hno
      | finished | nothing => rfl
    | push | close | notify | ask | settle => rfl
  have hlength := Queue.length_removals removals
  rw [hpopped, hnone, List.length_nil, Nat.zero_add, hdropped] at hlength
  cases hitems : y.queue.items with
  | nil =>
    refine .inl ⟨h.added_eq_nil hanswer hitems, ?_⟩
    have hclosed : y.queue.closed = true := by
      by_contra hopen
      rw [Bool.not_eq_true] at hopen
      exact h.not_bare hanswer hupdate ⟨hitems, hopen⟩
    exact Queue.take_eq_finished_iff.mpr ⟨hclosed, hitems⟩
  | cons a rest =>
    rw [hitems] at hadded
    refine .inr ⟨removals.map Queue.Removal.record, a, rest, hadded, ?_, ?_⟩
    · rw [List.length_map, hlength]
    · exact Queue.take_eq_item_iff.mpr ⟨rest, hitems⟩

end Exchange

/-! ### Mailboxes -/

namespace Mailbox

variable {m : Mailbox α} {capacity : Nat}

/-- A mailbox between two of its operations. -/
def exchange (m : Mailbox α) : Exchange α :=
  ⟨m.queue, if m.waiting then .waiting else .away, m.permit, 0⟩

/-- What can be made of a new mailbox. Its consumer does not pop while it waits. -/
inductive Reachable (capacity : Nat) : Mailbox α → Prop
  | empty : Reachable capacity (.empty capacity)
  | look {m : Mailbox α} (h : Reachable capacity m) (hwaiting : m.waiting = false) :
    Reachable capacity m.look.2
  | push {m : Mailbox α} (a : α) (h : Reachable capacity m) : Reachable capacity (m.push a).2.2
  | close {m : Mailbox α} (h : Reachable capacity m) : Reachable capacity m.close.2

open Exchange

theorem look_of_nothing (htake : m.queue.take = (.nothing, m.queue)) :
    m.look = (.nothing, ⟨m.queue, true, false⟩) := by
  rw [look, htake]

theorem look_of_taken {taken : Queue.Taken α} {queue : Queue α} (htaken : taken.isNothing = false)
    (htake : m.queue.take = (taken, queue)) : m.look = (taken, ⟨queue, false, m.permit⟩) := by
  rw [look, htake]
  cases taken with
  | nothing => cases htaken
  | item a | finished => rfl

/-- A consumer that is going to look does so, and looks once more if a permit is kept. -/
theorem exists_path_look (m : Mailbox α) :
    ∃ acts, Path ⟨m.queue, .looking, m.permit, 0⟩ acts m.look.2.exchange ∧
      acts.filterMap Act.answer? = m.look.1.answer?.toList := by
  rcases htake : m.queue.take with ⟨taken, queue⟩
  cases htaken : taken.isNothing with
  | false =>
    have hlook : Path ⟨m.queue, .looking, m.permit, 0⟩ [.look taken]
        ⟨queue, stageAfter taken, m.permit, 0⟩ := (Step.look_of_take rfl htake).path
    have hstage : stageAfter taken = .away := by simp [stageAfter, htaken]
    rw [hstage] at hlook
    rw [look_of_taken htaken htake]
    exact ⟨[.look taken], hlook, filterMap_singleton Act.answer? (.look taken)⟩
  | true =>
    obtain rfl : taken = .nothing := Queue.Taken.eq_nothing htaken
    obtain rfl : queue = m.queue := by
      have hitems := (Queue.take_eq_nothing_iff.mp (congrArg Prod.fst htake)).2
      rw [Queue.take_of_nil hitems] at htake
      exact (congrArg Prod.snd htake).symm
    have hlook : Path ⟨m.queue, .looking, m.permit, 0⟩ [.look .nothing]
        ⟨m.queue, .settling, m.permit, 0⟩ := (Step.look_of_take rfl htake).path
    rw [look_of_nothing htake]
    cases hpermit : m.permit with
    | false =>
      rw [hpermit] at hlook
      exact ⟨_, hlook.step (.wait rfl rfl), rfl⟩
    | true =>
      -- the permit is used up by looking once more in vain
      rw [hpermit] at hlook
      have hagain := (hlook.step (.resume rfl rfl)).step (.look_of_take rfl htake)
      exact ⟨_, hagain.step (.wait rfl rfl), rfl⟩

/-- A notification that comes at once. -/
theorem exists_path_notify (m : Mailbox α) :
    ∃ acts, Path { m.exchange with owed := 1 } acts m.notify.2.exchange ∧
      acts.filterMap Act.answer? = m.notify.1.answer?.toList := by
  cases hwaiting : m.waiting with
  | true =>
    have hnotify : m.notify = m.look := by rw [notify, hwaiting, if_pos rfl]
    have hwake := Step.wake (x := { m.exchange with owed := 1 }) 0 rfl
      (by rw [exchange, hwaiting]; rfl)
    obtain ⟨acts, hlook, hanswer⟩ := m.exists_path_look
    rw [hnotify]
    exact ⟨_, hwake.path.trans hlook, hanswer⟩
  | false =>
    have hnotify : m.notify = (.nothing, { m with permit := true }) := by
      rw [notify, hwaiting, if_neg Bool.false_ne_true]
    have hkeep := Step.keep (x := { m.exchange with owed := 1 }) 0 rfl
      (by rw [exchange, hwaiting]; exact Stage.noConfusion)
    rw [hnotify]
    exact ⟨_, hkeep.path, rfl⟩

/-- A push is a step, and so is the notification that follows it. -/
theorem exists_path_push (m : Mailbox α) (a : α) :
    ∃ acts, Path m.exchange (.push a (m.push a).1 :: acts) (m.push a).2.2.exchange ∧
      acts.filterMap Act.answer? = (m.push a).2.1.answer?.toList := by
  rcases hpush : m.queue.push a with ⟨outcome, queue⟩
  have hstep : Step m.exchange (.push a outcome) _ := .push_of_eq hpush
  by_cases hclosed : outcome = .closed
  · subst hclosed
    have hqueue : queue = m.queue := by
      have hend := Queue.fst_push_eq_closed_iff.mp (congrArg Prod.fst hpush)
      have hsame := Queue.push_of_closed hend a
      rw [hpush] at hsame
      exact congrArg Prod.snd hsame
    subst hqueue
    have heq : m.push a = (.closed, .nothing, m) := by rw [push, hpush]
    rw [heq]
    exact ⟨[], hstep.path, rfl⟩
  · have heq : m.push a = (outcome, { m with queue }.notify) := by
      rw [push, hpush]
      cases outcome with
      | closed => exact absurd rfl hclosed
      | queued | droppedOldest => rfl
    obtain ⟨acts, hnotify, hanswer⟩ := ({ m with queue } : Mailbox α).exists_path_notify
    rw [if_neg hclosed] at hstep
    rw [heq]
    exact ⟨acts, hstep.path.trans hnotify, hanswer⟩

theorem exists_path_close (m : Mailbox α) :
    ∃ acts, Path m.exchange (.close :: acts) m.close.2.exchange ∧
      acts.filterMap Act.answer? = m.close.1.answer?.toList := by
  obtain ⟨acts, hnotify, hanswer⟩ :=
    ({ m with queue := m.queue.close } : Mailbox α).exists_path_notify
  exact ⟨acts, (Step.close (x := m.exchange)).path.trans hnotify, hanswer⟩

/-- What is made of a mailbox by its operations is made by steps. -/
theorem Reachable.exists_path (h : Reachable capacity m) :
    ∃ acts, Path (.new capacity) acts m.exchange := by
  induction h with
  | empty => exact ⟨[], .start⟩
  | @look m _ hwaiting ih =>
    obtain ⟨acts, hpath⟩ := ih
    have hask := Step.ask (x := m.exchange) (by rw [exchange, hwaiting]; rfl)
    obtain ⟨acts', hlook, -⟩ := m.exists_path_look
    exact ⟨_, (hpath.step hask).trans hlook⟩
  | @push m a _ ih =>
    obtain ⟨acts, hpath⟩ := ih
    obtain ⟨acts', hpush, -⟩ := m.exists_path_push a
    exact ⟨_, hpath.trans hpush⟩
  | @close m _ ih =>
    obtain ⟨acts, hpath⟩ := ih
    obtain ⟨acts', hclose, -⟩ := m.exists_path_close
    exact ⟨_, hpath.trans hclose⟩

theorem push_of_bare (hwaiting : m.waiting = true) (hbare : m.exchange.Bare)
    (hone : 1 ≤ m.queue.capacity) (a : α) : (m.push a).1 = .queued ∧ (m.push a).2.1 = .item a := by
  obtain ⟨hitems, hopen⟩ : m.queue.items = [] ∧ m.queue.closed = false := hbare
  have hroom : m.queue.items.length < m.queue.capacity := by
    rw [hitems]
    exact hone
  have hpush : m.push a =
      (.queued, ({ m with queue.items := m.queue.items ++ [a] } : Mailbox α).notify) := by
    rw [push, Queue.push_of_room hopen hroom a]
  rw [hpush, hitems, notify, if_pos hwaiting]
  exact ⟨rfl, rfl⟩

theorem close_of_bare (hwaiting : m.waiting = true) (hbare : m.exchange.Bare) :
    m.close.1 = .finished := by
  have hitems : m.queue.close.items = [] := hbare.1
  rw [close, notify, if_pos hwaiting, look, Queue.take_of_nil hitems]
  rfl

/-- A waiting consumer is given the record that is pushed, or the end when the queue is closed. -/
theorem Reachable.answers (h : Reachable capacity m) (hwaiting : m.waiting = true) :
    (∀ a, (m.push a).1 = .queued ∧ (m.push a).2.1 = .item a) ∧ m.close.1 = .finished := by
  obtain ⟨acts, hpath⟩ := h.exists_path
  have hstage : m.exchange.stage = .waiting := by rw [exchange, hwaiting]; rfl
  have hpermit := ((attentive_new capacity).path hpath).permit_of_waiting hstage
  have hbare := hpath.bare (.inr hstage) hpermit rfl
  exact ⟨push_of_bare hwaiting hbare hpath.sound.one_le, close_of_bare hwaiting hbare⟩

end Mailbox

/-! ### All together -/

namespace Exchange

/-- In whatever order things happen, a consumer that waits with no notification kept or to come has
nothing to take. After the first push or the end of the queue its pop is answered: the consumer or a
notification can go on, and does so a few times at most before the answer. The answer is the oldest
record that was not dropped for a later one, or the end if the queue was closed without a record.
A permit makes the consumer look once more and nothing else: what it is answered is what the queue
holds, so it misses no record and meets the end only where it is. When every notification follows
at once, and the consumer looks at once, the answer is the very record that is pushed. -/
theorem answered_of_pending (capacity : Nat) :
    (∀ past (x : Exchange α), Path (new capacity) past x → x.Pending → x.permit = false →
      x.owed = 0 → x.queue.items = [] ∧ x.queue.closed = false) ∧
    (∀ past (x : Exchange α), Path (new capacity) past x → x.Pending → x.Bare →
      ∀ acts y, Path x acts y → (∀ act ∈ acts, act.isAnswer = false) →
        acts.filterMap Act.added? ≠ [] ∨ .close ∈ acts →
        (∃ act z, act.isUpdate = false ∧ Step y act z) ∧
        (∀ acts' z, Path y acts' z →
          (∀ act ∈ acts', act.isUpdate = false ∧ act.isAnswer = false) →
          acts'.length ≤ y.owed + 2) ∧
        ∀ taken z, Step y (.look taken) z →
          (acts.filterMap Act.added? = [] ∧ taken = .finished) ∨
          ∃ dropped a rest, acts.filterMap Act.added? = dropped ++ a :: rest ∧
            dropped.length = (acts.filterMap Act.outcome?).count .droppedOldest ∧
            taken = .item a) ∧
    (∀ past (x : Exchange α), Path (new capacity) past x →
      (∃ removals : List (Queue.Removal α),
        past.filterMap Act.added? = removals.map Queue.Removal.record ++ x.queue.items ∧
        removals.filterMap Queue.Removal.popped? = past.filterMap Act.popped? ∧
        (removals.filterMap Queue.Removal.dropped?).length =
          (past.filterMap Act.outcome?).count .droppedOldest) ∧
      (∀ taken y, Step x (.look taken) y →
        (taken = .finished ↔ x.queue.closed = true ∧ x.queue.items = []) ∧
        ∀ a, taken = .item a ↔ ∃ rest, x.queue.items = a :: rest) ∧
      ∀ y, Step x .settle y → x.permit = true → y = { x with stage := .looking, permit := false }) ∧
    ∀ m : Mailbox α, Mailbox.Reachable capacity m → m.waiting = true →
      (∀ a, (m.push a).1 = .queued ∧ (m.push a).2.1 = .item a) ∧ m.close.1 = .finished := by
  refine ⟨fun past x hpath => hpath.bare, ?_, ?_, fun m hm => hm.answers⟩
  · intro past x hpath hpending hbare acts y hacts hanswer hupdate
    have hattentive := ((attentive_new capacity).path hpath).path hacts
    have haway : x.stage ≠ .away := by
      rcases hpending with hstage | hstage <;> rw [hstage] <;> exact Stage.noConfusion
    have hstage := hacts.stage_ne_away haway hanswer
    have hnot := hacts.not_bare hanswer hupdate
    refine ⟨hattentive.exists_step hstage hnot, fun acts' z hpath' hact => ?_,
      fun taken z hstep => ?_⟩
    · have hle := (hpath'.length_le hstage hnot hact).1
      have hrank : y.stage.rank ≤ 2 := by cases y.stage <;> decide
      omega
    · cases hstep with
      | look => exact hacts.taken_eq hpath.sound hbare hanswer hupdate
  · intro past x hpath
    refine ⟨hpath.exists_removals (Queue.sound_empty capacity), fun taken y hstep => ?_,
      fun y hstep hpermit => ?_⟩
    · cases hstep with
      | look => exact ⟨Queue.take_eq_finished_iff, fun a => Queue.take_eq_item_iff⟩
    · cases hstep with
      | resume => rfl
      | wait _ hpermit' =>
        rw [hpermit] at hpermit'
        cases hpermit'

/-! ### Two records at once -/

/-- A queue for one record, with a consumer that waits. -/
theorem path_waiting : Path (new 1 : Exchange Nat) [.ask, .look .nothing, .settle]
    ⟨.empty 1, .waiting, false, 0⟩ :=
  (((Path.start.step (.ask rfl)).step (.look_of_take rfl rfl)).step (.wait rfl rfl))

/-- Two records come before the consumer has looked, and the first one is dropped. -/
theorem path_twice : Path (⟨.empty 1, .waiting, false, 0⟩ : Exchange Nat)
    [.push 1 .queued, .push 2 .droppedOldest, .notify, .notify]
    ⟨⟨[2], false, 1⟩, .looking, true, 0⟩ :=
  ((((Path.start.step (.push_of_eq rfl)).step (.push_of_eq rfl)).step (.wake 1 rfl rfl)).step
    (.keep 0 rfl Stage.noConfusion))

/-- So a pop that waits is not always answered the first record that is pushed from then on. -/
theorem not_answered_first : ¬ ∀ past (x : Exchange Nat), Path (new 1) past x → x.stage = .waiting →
    x.permit = false → x.owed = 0 → ∀ a acts y, Path x (.push a .queued :: acts) y →
      (∀ act ∈ acts, act.isAnswer = false) → ∀ taken z, Step y (.look taken) z →
        taken = .item a := by
  intro h
  have hfirst := h _ _ path_waiting rfl rfl rfl 1 _ _ path_twice (by decide) _ _
    (.look_of_take rfl rfl)
  cases hfirst

end Exchange

end FlowAudit.Delivery
