import Mathlib.Algebra.GroupWithZero.Nat
import Mathlib.Data.List.DropRight
import FlowAudit.Delivery.Warning

/-!
# Every warning goes out or is counted

`WarnLimiter.calls` are the warnings that a limiter is asked for, each with its answer. What a
limiter knows of them is when the last one went out and how many were held back since
(`WarnLimiter.Tracks`), and every call keeps that up to date (`Tracks.check`). So each count that
goes out is that of the warnings held back in between, none is counted twice, and warnings go out as
soon as the interval allows it but never sooner (`account_of_calls`).

The time between two calls is that of `WarnLimiter.isDue`: zero if the clock went backwards.
-/

namespace FlowAudit.Delivery.WarnLimiter

/-! ### Calls -/

/-- A warning that was asked for. -/
structure Call where
  time : Nat
  /-- The count that went out with the warning, if it went out. -/
  answer : Option Nat
  deriving DecidableEq, Repr

/-- Whether the warning went out. -/
def Call.passes (c : Call) : Bool :=
  c.answer.isSome

/-- The calls at the given times. -/
def calls (l : WarnLimiter) : List Nat → List Call
  | [] => []
  | t :: times => ⟨t, (l.check t).1⟩ :: calls (l.check t).2 times

/-- The limiter after calls at the given times. -/
def after (l : WarnLimiter) (times : List Nat) : WarnLimiter :=
  times.foldl (fun l t => (l.check t).2) l

/-- The counts that went out. -/
def reported (cs : List Call) : List Nat :=
  cs.filterMap Call.answer

/-- The last warning that went out. -/
def lastPassed? (cs : List Call) : Option Call :=
  (cs.filter Call.passes).getLast?

/-- The number of warnings held back since the last one that went out. -/
def heldBack (cs : List Call) : Nat :=
  (cs.rtakeWhile fun c => !c.passes).length

variable {l : WarnLimiter} {interval : Nat} {cs : List Call} {c : Call}

@[simp] theorem calls_nil (l : WarnLimiter) : l.calls [] = [] := rfl

@[simp] theorem calls_cons (l : WarnLimiter) (t : Nat) (times : List Nat) :
    l.calls (t :: times) = ⟨t, (l.check t).1⟩ :: (l.check t).2.calls times := rfl

theorem calls_concat (l : WarnLimiter) (times : List Nat) (t : Nat) :
    l.calls (times ++ [t]) = l.calls times ++ [⟨t, ((l.after times).check t).1⟩] := by
  induction times generalizing l with
  | nil => rfl
  | cons t' times ih => rw [List.cons_append, calls_cons, calls_cons, ih, List.cons_append]; rfl

theorem after_concat (l : WarnLimiter) (times : List Nat) (t : Nat) :
    l.after (times ++ [t]) = ((l.after times).check t).2 :=
  List.foldl_concat _ _ _ _

/-- Each call is made to the limiter that the calls in front of it leave. -/
theorem calls_eq_append_cons {times : List Nat} {front back : List Call}
    (h : l.calls times = front ++ c :: back) :
    ∃ times', l.calls times' = front ∧ c.answer = ((l.after times').check c.time).1 := by
  induction front generalizing l times with
  | nil =>
    cases times with
    | nil => cases h
    | cons t times =>
      rw [calls_cons, List.nil_append, List.cons.injEq] at h
      obtain ⟨rfl, -⟩ := h
      exact ⟨[], rfl, rfl⟩
  | cons d front ih =>
    cases times with
    | nil => cases h
    | cons t times =>
      rw [calls_cons, List.cons_append, List.cons.injEq] at h
      obtain ⟨rfl, hrest⟩ := h
      obtain ⟨times', hfront, hanswer⟩ := ih hrest
      exact ⟨t :: times', by rw [calls_cons, hfront], hanswer⟩

/-! ### Another call -/

theorem heldBack_concat (cs : List Call) (c : Call) :
    heldBack (cs ++ [c]) = if c.passes then 0 else heldBack cs + 1 := by
  unfold heldBack
  cases hc : c.passes with
  | true => rw [List.rtakeWhile_concat_neg _ _ _ (by simp [hc])]; rfl
  | false => rw [List.rtakeWhile_concat_pos _ _ _ (by simp [hc]), List.length_append]; rfl

theorem lastPassed?_concat (cs : List Call) (c : Call) :
    lastPassed? (cs ++ [c]) = if c.passes then some c else lastPassed? cs := by
  unfold lastPassed?
  rw [List.filter_append]
  cases hc : c.passes with
  | true => rw [List.filter_cons_of_pos hc, List.filter_nil, List.getLast?_concat]; rfl
  | false => rw [List.filter_cons_of_neg (by simp [hc]), List.filter_nil, List.append_nil]; rfl

theorem reported_concat (cs : List Call) (c : Call) :
    reported (cs ++ [c]) = reported cs ++ c.answer.toList := by
  rw [reported, List.filterMap_append, ← reported]
  cases h : c.answer <;> simp [h]

/-! ### What a limiter knows -/

/-- What a limiter knows of the calls so far. -/
structure Tracks (interval : Nat) (cs : List Call) (l : WarnLimiter) : Prop where
  interval_eq : l.interval = interval
  last_eq : l.last = (lastPassed? cs).map Call.time
  suppressed_eq : l.suppressed = heldBack cs

theorem tracks_new (interval : Nat) : Tracks interval [] (new interval) :=
  ⟨rfl, rfl, rfl⟩

/-- A warning is due when none went out yet, or the last one did an interval ago. -/
theorem Tracks.isDue_iff (h : Tracks interval cs l) (t : Nat) :
    l.isDue t = true ↔ ∀ d, lastPassed? cs = some d → interval ≤ t - d.time := by
  rw [isDue, h.last_eq, h.interval_eq]
  cases lastPassed? cs <;> simp

/-- A warning goes out when it is due, and takes the count with it. -/
theorem Tracks.fst_check (h : Tracks interval cs l) (t : Nat) :
    (l.check t).1 = if l.isDue t then some (heldBack cs) else none := by
  rw [check, ← h.suppressed_eq]
  split <;> rfl

theorem passes_check (l : WarnLimiter) (t : Nat) :
    (Call.mk t (l.check t).1).passes = l.isDue t := by
  rw [Call.passes, check]
  cases l.isDue t <;> rfl

/-- A call brings what the limiter knows up to date. -/
theorem Tracks.check (h : Tracks interval cs l) (t : Nat) :
    Tracks interval (cs ++ [⟨t, (l.check t).1⟩]) (l.check t).2 := by
  have hpasses := l.passes_check t
  refine ⟨?_, ?_, ?_⟩
  · rw [WarnLimiter.check]
    split <;> exact h.interval_eq
  · rw [lastPassed?_concat, hpasses, WarnLimiter.check]
    split
    · rfl
    · exact h.last_eq
  · rw [heldBack_concat, hpasses, WarnLimiter.check]
    split
    · rfl
    · exact congrArg (· + 1) h.suppressed_eq

theorem tracks_after (interval : Nat) (times : List Nat) :
    Tracks interval ((new interval).calls times) ((new interval).after times) := by
  induction times using List.reverseRecOn with
  | nil => exact tracks_new interval
  | append_singleton times t ih =>
    rw [calls_concat, after_concat]
    exact ih.check t

/-! ### The account -/

/-- Every warning that was asked for went out, was counted by one that did, or is held back. -/
theorem length_eq (interval : Nat) (times : List Nat) :
    times.length = (reported ((new interval).calls times)).length +
      (reported ((new interval).calls times)).sum + heldBack ((new interval).calls times) := by
  induction times using List.reverseRecOn with
  | nil => rfl
  | append_singleton times t ih =>
    have hanswer := (tracks_after interval times).fst_check t
    rw [List.length_append, List.length_singleton, ih, calls_concat, reported_concat,
      heldBack_concat, Call.passes, hanswer]
    cases ((new interval).after times).isDue t with
    | true => simp; omega
    | false => simp; omega

/-- No warning goes out later than the last one, if they are some time apart. -/
theorem time_le_of_lastPassed? {d : Call}
    (h : (cs.filter Call.passes).Pairwise fun c d => c.time + interval ≤ d.time)
    (hlast : lastPassed? cs = some d) (hc : c ∈ cs.filter Call.passes) : c.time ≤ d.time := by
  obtain ⟨front, hfront⟩ := List.getLast?_eq_some_iff.mp hlast
  rw [hfront] at h hc
  rcases List.mem_append.mp hc with hmem | hmem
  · have hapart := (List.pairwise_append.mp h).2.2 c hmem d (List.mem_singleton_self d)
    omega
  · rw [List.mem_singleton.mp hmem]

/-- No two warnings go out within the interval: each goes out an interval after the one before it,
and so after all of them. -/
theorem pairwise_passes (hpos : 0 < interval) (times : List Nat) :
    (((new interval).calls times).filter Call.passes).Pairwise
      fun c d => c.time + interval ≤ d.time := by
  induction times using List.reverseRecOn with
  | nil => exact List.Pairwise.nil
  | append_singleton times t ih =>
    have htracks := tracks_after interval times
    rw [calls_concat, List.filter_append]
    generalize (new interval).after times = l at htracks ⊢
    generalize (new interval).calls times = cs at htracks ih ⊢
    cases hdue : l.isDue t with
    | false =>
      have hheld := (l.passes_check t).trans hdue
      simpa [hheld] using ih
    | true =>
      have hpasses := (l.passes_check t).trans hdue
      rw [List.filter_cons_of_pos hpasses, List.filter_nil]
      refine List.pairwise_append.mpr ⟨ih, List.pairwise_singleton _ _, fun c hc d hd => ?_⟩
      obtain rfl := List.mem_singleton.mp hd
      have hlast : lastPassed? cs = some _ :=
        List.getLast?_eq_getLast_of_ne_nil (List.ne_nil_of_mem hc)
      have hle := time_le_of_lastPassed? ih hlast hc
      have hapart := (htracks.isDue_iff t).mp hdue _ hlast
      show c.time + interval ≤ t
      omega

/-- Whatever the interval is and whenever a limiter is asked, every warning went out, was counted by
one that did, or is held back. The count that goes out with a warning is the number of those held
back since the one before. A warning goes out if and only if none did before, or the last one did at
least an interval ago; so two of them are never less than an interval apart. -/
theorem account_of_calls (interval : Nat) (times : List Nat) :
    times.length = (reported ((new interval).calls times)).length +
      (reported ((new interval).calls times)).sum + ((new interval).after times).suppressed ∧
    (∀ front c back, (new interval).calls times = front ++ c :: back →
      (∀ n, c.answer = some n → n = heldBack front) ∧
      (c.answer.isSome = true ↔
        ∀ d, lastPassed? front = some d → interval ≤ c.time - d.time)) ∧
    (0 < interval → (((new interval).calls times).filter Call.passes).Pairwise
      fun c d => c.time + interval ≤ d.time) := by
  refine ⟨?_, fun front c back hsplit => ?_, fun hpos => pairwise_passes hpos times⟩
  · rw [(tracks_after interval times).suppressed_eq]
    exact length_eq interval times
  · obtain ⟨times', rfl, hanswer⟩ := calls_eq_append_cons hsplit
    have htracks := tracks_after interval times'
    rw [htracks.fst_check] at hanswer
    rw [← htracks.isDue_iff, hanswer]
    cases ((new interval).after times').isDue c.time with
    | true => exact ⟨fun n hn => (Option.some.inj hn).symm, by simp⟩
    | false => exact ⟨fun n hn => absurd hn (by simp), by simp⟩

/-- While the clock goes back nothing goes out, and the next warning takes the count of all that was
held back since the first. -/
theorem heldBack_of_burst :
    (new 60).calls [100, 101, 130, 95, 160, 161] =
        [⟨100, some 0⟩, ⟨101, none⟩, ⟨130, none⟩, ⟨95, none⟩] ++ ⟨160, some 3⟩ ::
          [⟨161, none⟩] ∧
      3 = heldBack [⟨100, some 0⟩, ⟨101, none⟩, ⟨130, none⟩, ⟨95, none⟩] ∧
      0 < 60 ∧ (((new 60).calls [100, 101, 130, 95, 160, 161]).filter Call.passes).Pairwise
        fun c d => c.time + 60 ≤ d.time := by
  have hcalls : (new 60).calls [100, 101, 130, 95, 160, 161] =
      [⟨100, some 0⟩, ⟨101, none⟩, ⟨130, none⟩, ⟨95, none⟩] ++ ⟨160, some 3⟩ ::
        [⟨161, none⟩] := by decide
  obtain ⟨-, hall, hapart⟩ := account_of_calls 60 [100, 101, 130, 95, 160, 161]
  exact ⟨hcalls, (hall _ _ _ hcalls).1 3 rfl, by decide, hapart (by decide)⟩

end FlowAudit.Delivery.WarnLimiter
