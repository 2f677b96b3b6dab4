import Mathlib.Data.Finset.Card
import FlowAudit.Proofs.Conntrack.Difference

/-!
# The transitions that a watch answers

`Watch.Yields` is a run of a watch over a sequence of rounds, with the transitions answered in it.
The map of the last reading may be gone through in any order, so the CLOSEs of one reading may come
in any order. `Watch.courses` lists what one turn can be.

For every connection the transitions take turns and begin with an OPEN (`Watch.Yields.alternates`).
A stream of such transitions in which there are never too many connections open at a time is
`Orderly`, whatever it comes from (`orderly_of_alternates`).
-/

namespace FlowAudit

open Transition (phasesOf)

namespace Conntrack.Watch

/-! ### One turn -/

/-- What a turn of a watch can be. -/
inductive Courses (w : Watch) (r : Round) : Option Answer × Watch → Prop
  | ended (hfinished : w.finished = true) : Courses w r (some .ended, w)
  | stopped (hfinished : w.finished = false) (hstop : r.stopBefore = true) :
    Courses w r (some .ended, { w with finished := true })
  | answered (t : Transition) (rest : List Transition) (hfinished : w.finished = false)
    (hstop : r.stopBefore = false) (hpending : w.pending = t :: rest) :
    Courses w r (some (.transition t), { w with pending := rest })
  | interrupted (hfinished : w.finished = false) (hstop : r.stopBefore = false)
    (hpending : w.pending = []) (hdelay : w.delay.isSome = true) (hwait : r.stopWaiting = true) :
    Courses w r (some .ended, { w with delay := none, finished := true })
  | read (text : String) (hfinished : w.finished = false) (hstop : r.stopBefore = false)
    (hpending : w.pending = []) (hwait : (w.delay.isSome && r.stopWaiting) = false)
    (hreading : r.reading = .ok text) :
    Courses w r (none, w.take text)
  | failed (cause : SystemError) (hfinished : w.finished = false) (hstop : r.stopBefore = false)
    (hpending : w.pending = []) (hwait : (w.delay.isSome && r.stopWaiting) = false)
    (hreading : r.reading = .error cause) :
    Courses w r (w.fail cause)

theorem courses (w : Watch) (r : Round) : Courses w r (w.turn r) := by
  unfold turn
  split
  · rename_i hfinished
    exact .ended hfinished
  · rename_i hfinished
    rw [Bool.not_eq_true] at hfinished
    split
    · rename_i hstop
      exact .stopped hfinished hstop
    · rename_i hstop
      rw [Bool.not_eq_true] at hstop
      split
      · rename_i t rest hpending
        exact .answered t rest hfinished hstop hpending
      · rename_i hpending
        split
        · rename_i hwait
          obtain ⟨hdelay, hwait⟩ := Bool.and_eq_true_iff.mp hwait
          exact .interrupted hfinished hstop hpending hdelay hwait
        · rename_i hwait
          rw [Bool.not_eq_true] at hwait
          split
          · rename_i text hreading
            exact .read text hfinished hstop hpending hwait hreading
          · rename_i cause hreading
            exact .failed cause hfinished hstop hpending hwait hreading

/-- The transition that an answer is, if it is one. -/
def answered : Option Answer → List Transition
  | some (.transition t) => [t]
  | _ => []

/-- A failed reading answers no transition, and changes nothing of what is known. -/
theorem answered_fail (w : Watch) (cause : SystemError) :
    answered (w.fail cause).1 = [] ∧ (w.fail cause).2.previous = w.previous ∧
      (w.fail cause).2.pending = w.pending := by
  unfold fail
  dsimp only
  split <;> exact ⟨rfl, rfl, rfl⟩

/-- A turn with the map of the last reading in any order. -/
def Turns (w : Watch) (r : Round) (a : Option Answer) (w' : Watch) : Prop :=
  ∃ rows, rows.Perm w.previous.entries ∧ { w with previous.entries := rows }.turn r = (a, w')

/-- What is answered in a turn, with what is pending behind it, goes on from what was pending
before. -/
theorem Turns.alternates {w w' : Watch} {r : Round} {a : Option Answer} (h : w.Turns r a w')
    (hf : w.previous.Faithful) (c : Connection) {p : Phase}
    (halt : p.Alternates (phasesOf c w.pending) (Sample.upcoming w.previous.live[c]?)) :
    w'.previous.Faithful ∧
      p.Alternates (phasesOf c (answered a ++ w'.pending))
        (Sample.upcoming w'.previous.live[c]?) := by
  obtain ⟨rows, hperm, hturn⟩ := h
  have hf' := hf.perm hperm
  have hcourses := courses { w with previous.entries := rows } r
  rw [hturn] at hcourses
  generalize hx : (a, w') = x at hcourses
  cases hcourses with
  | ended | stopped | interrupted =>
    obtain ⟨rfl, rfl⟩ := Prod.mk.inj hx
    exact ⟨hf', halt⟩
  | answered t rest _ _ hpending =>
    obtain ⟨rfl, rfl⟩ := Prod.mk.inj hx
    rw [show w.pending = t :: rest from hpending] at halt
    exact ⟨hf', halt⟩
  | read text =>
    -- nothing was pending, and what is now fits to the reading before
    obtain ⟨rfl, rfl⟩ := Prod.mk.inj hx
    have hcurrent := Sample.faithful_ofEntries (Table.parse text).entries
    refine ⟨hcurrent, ?_⟩
    simp only [answered, take, List.nil_append, Transition.phasesOf_append]
    exact Phase.alternates_append.mpr ⟨_, halt, Sample.alternates_transitions hf' hcurrent c⟩
  | failed cause =>
    have hfail := answered_fail { w with previous.entries := rows } cause
    rw [← hx] at hfail
    obtain ⟨hanswered, hprevious, hpending⟩ := hfail
    rw [hanswered, hprevious, hpending, List.nil_append]
    exact ⟨hf', halt⟩

/-! ### Runs -/

/-- A run of a watch over a sequence of rounds, with the transitions answered. -/
inductive Yields : Watch → List Round → List Transition → Watch → Prop
  | nil (w : Watch) : Yields w [] [] w
  | cons {w w' w'' : Watch} {r : Round} {rounds : List Round} {a : Option Answer}
    {ts : List Transition} (hturn : w.Turns r a w') (hrest : Yields w' rounds ts w'') :
    Yields w (r :: rounds) (answered a ++ ts) w''

/-- There is a run over every sequence of rounds: the one that goes through maps in the order of the
table. -/
theorem exists_yields (w : Watch) (rounds : List Round) : ∃ ts w', w.Yields rounds ts w' := by
  induction rounds generalizing w with
  | nil => exact ⟨[], w, .nil w⟩
  | cons r rounds ih =>
    obtain ⟨ts, w', hrest⟩ := ih (w.turn r).2
    exact ⟨_, w', .cons ⟨w.previous.entries, .refl _, rfl⟩ hrest⟩

theorem Yields.append {w w' w'' : Watch} {rounds rounds' : List Round} {ts ts' : List Transition}
    (h : w.Yields rounds ts w') (h' : w'.Yields rounds' ts' w'') :
    w.Yields (rounds ++ rounds') (ts ++ ts') w'' := by
  induction h with
  | nil => exact h'
  | cons hturn _ ih =>
    rw [List.cons_append, List.append_assoc]
    exact .cons hturn (ih h')

/-- What is pending is answered when the watch is not asked to stop. -/
theorem exists_yields_pending {w : Watch} {ts : List Transition} (hfinished : w.finished = false)
    (hpending : w.pending = ts) : ∃ rounds, w.Yields rounds ts { w with pending := [] } := by
  induction ts generalizing w with
  | nil =>
    have hw : { w with pending := [] } = w := by rw [← hpending]
    rw [hw]
    exact ⟨[], .nil w⟩
  | cons t ts ih =>
    have hturn : w.Turns ⟨false, false, .ok ""⟩ (some (.transition t)) { w with pending := ts } :=
      ⟨w.previous.entries, .refl _, by simp [turn, hfinished, hpending]⟩
    obtain ⟨rounds, hrest⟩ := ih (w := { w with pending := ts }) hfinished rfl
    exact ⟨_, .cons hturn hrest⟩

/-- All transitions of a reading are answered when the watch is not asked to stop. -/
theorem exists_yields_take {w : Watch} (hfinished : w.finished = false) (hpending : w.pending = [])
    (text : String) :
    ∃ rounds, w.Yields rounds
      (w.previous.transitions (Sample.ofEntries (Table.parse text).entries))
      { w.take text with pending := [] } := by
  have hturn : w.Turns ⟨false, false, .ok text⟩ none (w.take text) := by
    refine ⟨w.previous.entries, .refl _, ?_⟩
    unfold turn
    rw [if_neg (by simp [hfinished]), if_neg (by simp)]
    split
    · rename_i t rest hcons
      simp [hpending] at hcons
    · rw [if_neg (by simp)]
  have htake : (w.take text).pending =
      w.previous.transitions (Sample.ofEntries (Table.parse text).entries) := by
    simp only [take, hpending, List.nil_append]
  obtain ⟨rounds, hrest⟩ := exists_yields_pending (w := w.take text) hfinished htake
  have hyields := Yields.cons hturn hrest
  rw [show answered none = [] from rfl, List.nil_append] at hyields
  exact ⟨_, hyields⟩

theorem Yields.alternates_pending {w w' : Watch} {rounds : List Round} {ts : List Transition}
    (h : w.Yields rounds ts w') (hf : w.previous.Faithful) (c : Connection) {p : Phase}
    (halt : p.Alternates (phasesOf c w.pending) (Sample.upcoming w.previous.live[c]?)) :
    p.Alternates (phasesOf c (ts ++ w'.pending)) (Sample.upcoming w'.previous.live[c]?) := by
  -- what is pending behind a turn is where the rest of the run goes on
  induction h generalizing p with
  | nil => exact halt
  | cons hturn _ ih =>
    obtain ⟨hf', halt'⟩ := hturn.alternates hf c halt
    rw [Transition.phasesOf_append, Phase.alternates_append] at halt'
    obtain ⟨q, hanswered, hpending⟩ := halt'
    rw [List.append_assoc, Transition.phasesOf_append, Phase.alternates_append]
    exact ⟨q, hanswered, ih hf' hpending⟩

/-- For every connection the transitions of a watch take turns and begin with an OPEN. -/
theorem Yields.alternates {settings : SourceSettings} {w' : Watch} {rounds : List Round}
    {ts : List Transition} (h : (new settings).Yields rounds ts w') (c : Connection) :
    ∃ q, Phase.Alternates .opened (phasesOf c ts) q := by
  have hfirst : Phase.Alternates .opened (phasesOf c (new settings).pending)
      (Sample.upcoming (new settings).previous.live[c]?) := by
    simpa [new, Sample.empty, Sample.upcoming] using Phase.Alternates.nil .opened
  have halt := h.alternates_pending Sample.faithful_empty c hfirst
  rw [Transition.phasesOf_append, Phase.alternates_append] at halt
  obtain ⟨q, hts, -⟩ := halt
  exact ⟨q, hts⟩

end Conntrack.Watch

/-! ### Streams with room -/

namespace Transition

/-- The open connections behind a transition. -/
def apply (live : Finset Connection) (t : Transition) : Finset Connection :=
  match t.phase with
  | .opened => insert t.connection live
  | .closed => live.erase t.connection

/-- The connections that are open after a sequence of transitions. -/
def openAfter (ts : List Transition) : Finset Connection :=
  ts.foldl apply ∅

/-- No more connections are open than there were transitions. -/
theorem card_foldl_apply_le (live : Finset Connection) (ts : List Transition) :
    (ts.foldl apply live).card ≤ live.card + ts.length := by
  induction ts generalizing live with
  | nil => exact Nat.le_refl _
  | cons t ts ih =>
    have happly : (t.apply live).card ≤ live.card + 1 := by
      unfold apply
      split
      · exact Finset.card_insert_le _ _
      · exact Nat.le_succ_of_le (Finset.card_erase_le)
    have hrest := ih (t.apply live)
    rw [List.foldl_cons, List.length_cons]
    omega

/-- The transitions of known connections that fit to what is open, with room for all that are open
at a time. -/
inductive Orderly (known : Set Connection) (capacity : Nat) :
    Finset Connection → List Transition → Prop
  | nil (live : Finset Connection) : Orderly known capacity live []
  | opened {live : Finset Connection} {ts : List Transition} {c : Connection} (hknown : c ∈ known)
    (hnew : c ∉ live) (hroom : (insert c live).card ≤ capacity)
    (hrest : Orderly known capacity (insert c live) ts) :
    Orderly known capacity live (⟨.opened, c⟩ :: ts)
  | closed {live : Finset Connection} {ts : List Transition} {c : Connection} (hknown : c ∈ known)
    (hopen : c ∈ live) (hrest : Orderly known capacity (live.erase c) ts) :
    Orderly known capacity live (⟨.closed, c⟩ :: ts)

/-- The phase that a connection takes next. -/
def upcoming (live : Finset Connection) (c : Connection) : Phase :=
  if c ∈ live then .closed else .opened

theorem upcoming_apply_self (live : Finset Connection) (t : Transition) :
    upcoming (t.apply live) t.connection = t.phase.other := by
  obtain ⟨phase, c⟩ := t
  cases phase <;> simp [upcoming, apply, Phase.other]

theorem upcoming_apply_of_ne {live : Finset Connection} {t : Transition} {c : Connection}
    (hne : t.connection ≠ c) : upcoming (t.apply live) c = upcoming live c := by
  obtain ⟨phase, c'⟩ := t
  have hne' : c ≠ c' := fun h => hne h.symm
  cases phase <;> simp [upcoming, apply, hne']

/-- Transitions that take turns for every connection are in order as long as there is room. -/
theorem orderly_of_alternates {known : Set Connection} {capacity : Nat} {ts : List Transition}
    {live : Finset Connection} (hknown : ∀ t ∈ ts, t.connection ∈ known)
    (halt : ∀ c, ∃ q, (upcoming live c).Alternates (phasesOf c ts) q)
    (hroom : ∀ front, front <+: ts → (front.foldl apply live).card ≤ capacity) :
    Orderly known capacity live ts := by
  induction ts generalizing live with
  | nil => exact .nil live
  | cons t ts ih =>
    rw [List.forall_mem_cons] at hknown
    -- the first transition is the one that its connection takes next
    have hself : t.phase = upcoming live t.connection := by
      obtain ⟨q, hq⟩ := halt t.connection
      rw [phasesOf_cons_self rfl] at hq
      exact hq.of_cons.1
    -- and behind it all connections still take turns
    have hrest : Orderly known capacity (t.apply live) ts := by
      refine ih hknown.2 (fun c => ?_) fun front hfront => ?_
      · obtain ⟨q, hq⟩ := halt c
        by_cases hc : t.connection = c
        · subst hc
          rw [phasesOf_cons_self rfl] at hq
          rw [upcoming_apply_self, hself]
          exact ⟨q, hq.of_cons.2⟩
        · rw [phasesOf_cons_of_ne hc] at hq
          rw [upcoming_apply_of_ne hc]
          exact ⟨q, hq⟩
      · exact hroom (t :: front) ((List.prefix_cons_inj t).mpr hfront)
    obtain ⟨phase, c⟩ := t
    by_cases hc : c ∈ live
    · obtain rfl : phase = .closed := by simpa [upcoming, hc] using hself
      exact .closed hknown.1 hc hrest
    · obtain rfl : phase = .opened := by simpa [upcoming, hc] using hself
      refine .opened hknown.1 hc ?_ hrest
      exact hroom [⟨.opened, c⟩] ((List.prefix_cons_inj _).mpr List.nil_prefix)

end Transition

/-- What a watch answers is in order as long as there is room for all connections that are open at a
time. -/
theorem Conntrack.Watch.Yields.orderly {settings : SourceSettings} {w' : Watch}
    {rounds : List Round} {ts : List Transition} {capacity : Nat}
    (h : (new settings).Yields rounds ts w')
    (hroom : ∀ front, front <+: ts → (Transition.openAfter front).card ≤ capacity) :
    Transition.Orderly {c | ∃ t ∈ ts, t.connection = c} capacity ∅ ts :=
  Transition.orderly_of_alternates (fun t ht => ⟨t, ht, rfl⟩) (fun c => h.alternates c) hroom

end FlowAudit
