import FlowAudit.Conntrack.Watch

/-!
# What two readings of the table show of a connection

A reading is `Sample.Faithful` if its rows and its map tell the same about every connection. Of a
table this holds because only the first row of a connection counts (`Sample.filter_firsts`,
`Sample.getElem?_firsts`), and it does not depend on the order of the rows.

Between two such readings a connection is shown by what it was and what it is alone
(`Sample.phasesOf_transitions`): it opens and closes once at most, and what is shown fits to what
was shown before (`Sample.alternates_transitions`).
-/

namespace FlowAudit

/-- The phase that comes after this one. -/
def Phase.other : Phase → Phase
  | .opened => .closed
  | .closed => .opened

/-- Phases that take turns: the first one is given, and so is the one that would come next. -/
inductive Phase.Alternates : Phase → List Phase → Phase → Prop
  | nil (p : Phase) : Alternates p [] p
  | cons {p q : Phase} {ps : List Phase} (h : Alternates p.other ps q) : Alternates p (p :: ps) q

namespace Phase

variable {p q : Phase} {ps qs : List Phase}

theorem alternates_append :
    Alternates p (ps ++ qs) q ↔ ∃ r, Alternates p ps r ∧ Alternates r qs q := by
  constructor
  · intro h
    induction ps generalizing p with
    | nil => exact ⟨p, .nil p, h⟩
    | cons s ps ih =>
      rw [List.cons_append] at h
      cases h with
      | cons h =>
        obtain ⟨r, hps, hqs⟩ := ih h
        exact ⟨r, hps.cons, hqs⟩
  · rintro ⟨r, hps, hqs⟩
    induction hps with
    | nil => exact hqs
    | cons _ ih => exact (ih hqs).cons

/-- The first of phases that take turns is the one that is given. -/
theorem Alternates.of_cons {s : Phase} (h : Alternates p (s :: ps) q) :
    s = p ∧ Alternates p.other ps q := by
  cases h with
  | cons h => exact ⟨rfl, h⟩

end Phase

/-- The phases of a connection in a sequence of transitions. -/
def Transition.phasesOf (c : Connection) (ts : List Transition) : List Phase :=
  (ts.filter fun t => t.connection = c).map Transition.phase

namespace Transition

variable {c : Connection} {t : Transition} {ts : List Transition}

@[simp] theorem phasesOf_nil (c : Connection) : phasesOf c [] = [] := rfl

theorem phasesOf_append (c : Connection) (ts us : List Transition) :
    phasesOf c (ts ++ us) = phasesOf c ts ++ phasesOf c us := by
  simp [phasesOf]

theorem phasesOf_cons_self (h : t.connection = c) :
    phasesOf c (t :: ts) = t.phase :: phasesOf c ts := by
  simp [phasesOf, h]

/-- Of rows that make transitions of one phase, those of a connection make its phases. -/
theorem phasesOf_map_filter (c : Connection) (phase : Phase) (makes : Conntrack.Entry → Bool)
    (rows : List Conntrack.Entry) :
    phasesOf c ((rows.filter makes).map fun e => ⟨phase, e.connection⟩) =
      ((rows.filter fun e => e.connection = c).filter makes).map fun _ => phase := by
  unfold phasesOf
  rw [List.filter_map, List.map_map, List.filter_filter, List.filter_filter]
  congr 1
  exact List.filter_congr fun e _ => Bool.and_comm _ _

theorem phasesOf_cons_of_ne (h : t.connection ≠ c) : phasesOf c (t :: ts) = phasesOf c ts := by
  simp [phasesOf, h]

end Transition

namespace Conntrack

open Transition (phasesOf)

namespace Sample

/-! ### One reading -/

/-- The rows of a reading tell the same of each connection as its map. -/
def Faithful (s : Sample) : Prop :=
  ∀ c, (s.entries.filter fun e => e.connection = c) = (s.live[c]?.map (Entry.mk c)).toList

theorem faithful_empty : Sample.empty.Faithful := by
  intro c
  simp [Sample.empty]

/-- Of the rows of a connection that was not seen before, the first one is kept. -/
theorem filter_firsts (seen : Std.HashMap Connection Bool) (rows : List Entry) (c : Connection) :
    ((firsts seen rows).1.filter fun e => e.connection = c) =
      if seen.contains c then [] else (rows.find? fun e => e.connection = c).toList := by
  induction rows generalizing seen with
  | nil => simp [firsts]
  | cons e rest ih =>
    unfold firsts
    by_cases he : seen.contains e.connection = true
    · -- a row that is skipped is not the first one of its connection, or that was seen before
      rw [if_pos he, ih]
      by_cases hc : e.connection = c
      · subst hc
        rw [if_pos he, if_pos he]
      · rw [List.find?_cons_of_neg (by simpa using hc)]
    · rw [if_neg he]
      by_cases hc : e.connection = c
      · subst hc
        simp [ih, he]
      · simp [ih, hc]

/-- What is known of a connection is what was known before, or what its first row says. -/
theorem getElem?_firsts (seen : Std.HashMap Connection Bool) (rows : List Entry) (c : Connection) :
    (firsts seen rows).2[c]? =
      (seen[c]?).or ((rows.find? fun e => e.connection = c).map Entry.live) := by
  induction rows generalizing seen with
  | nil => simp [firsts]
  | cons e rest ih =>
    unfold firsts
    by_cases he : seen.contains e.connection = true
    · rw [if_pos he, ih]
      by_cases hc : e.connection = c
      · subst hc
        rw [Std.HashMap.contains_eq_isSome_getElem?] at he
        obtain ⟨b, hb⟩ := Option.isSome_iff_exists.mp he
        rw [hb, Option.some_or, Option.some_or]
      · rw [List.find?_cons_of_neg (by simpa using hc)]
    · rw [if_neg he]
      rw [Std.HashMap.contains_eq_isSome_getElem?, Option.not_isSome_iff_eq_none] at he
      by_cases hc : e.connection = c
      · subst hc
        simp [ih, he]
      · simp [ih, hc, Std.HashMap.getElem?_insert]

/-- A reading of a table is faithful, and what it knows of a connection is what its first row
says. -/
theorem faithful_ofEntries (rows : List Entry) : (ofEntries rows).Faithful := by
  intro c
  show ((firsts ∅ rows).1.filter fun e => e.connection = c) =
    (((firsts ∅ rows).2[c]?).map (Entry.mk c)).toList
  rw [filter_firsts, getElem?_firsts]
  cases hf : rows.find? fun e => e.connection = c with
  | none => simp
  | some e =>
    have hc : e.connection = c := by simpa using List.find?_some hf
    subst hc
    simp

/-- Being faithful does not depend on the order of the rows. -/
theorem Faithful.perm {s : Sample} (h : s.Faithful) {rows : List Entry}
    (hperm : rows.Perm s.entries) : ({ s with entries := rows } : Sample).Faithful := by
  intro c
  -- a connection has one row at most, and one row has one order
  have hfilter := hperm.filter fun e => e.connection = c
  rw [h c] at hfilter
  cases hlive : s.live[c]? with
  | none =>
    rw [hlive] at hfilter
    simpa [hlive] using hfilter
  | some b =>
    rw [hlive] at hfilter
    simpa [hlive] using hfilter

/-! ### Two readings -/

/-- What two readings show of a connection, from what was known of it and what is known now. -/
def shown : (was is : Option Bool) → List Phase
  | none, some true => [.opened]
  | none, some false => [.opened, .closed]
  | some false, some true => [.opened]
  | some true, none => [.closed]
  | some true, some false => [.closed]
  | _, _ => []

/-- The phase that a connection of which this is known takes next. -/
def upcoming (is : Option Bool) : Phase :=
  if is = some true then .closed else .opened

theorem alternates_shown (was is : Option Bool) :
    Phase.Alternates (upcoming was) (shown was is) (upcoming is) := by
  -- unknown, over or live, both before and now
  rcases was with _ | _ | _ <;> rcases is with _ | _ | _ <;>
    first
    | exact .nil _
    | exact .cons (.nil _)
    | exact .cons (.cons (.nil _))

/-- Two readings show of a connection what follows from what they know of it. -/
theorem phasesOf_transitions {previous current : Sample} (hp : previous.Faithful)
    (hc : current.Faithful) (c : Connection) :
    phasesOf c (previous.transitions current) =
      shown previous.live[c]? current.live[c]? := by
  dsimp only [transitions]
  rw [List.map_append, Transition.phasesOf_append, Transition.phasesOf_append,
    Transition.phasesOf_map_filter, Transition.phasesOf_map_filter,
    Transition.phasesOf_map_filter, hp c, hc c]
  -- at most one row is left on either side
  cases hwas : previous.live[c]? with
  | none =>
    cases his : current.live[c]? with
    | none => simp [shown]
    | some isLive => cases isLive <;> simp [shown, opens, closesUnseen, hwas]
  | some wasLive =>
    cases his : current.live[c]? with
    | none => cases wasLive <;> simp [shown, closes, his]
    | some isLive =>
      cases wasLive <;> cases isLive <;> simp [shown, opens, closesUnseen, closes, hwas, his]

/-- What two readings show of a connection fits to what the first one knew of it. -/
theorem alternates_transitions {previous current : Sample} (hp : previous.Faithful)
    (hc : current.Faithful) (c : Connection) :
    Phase.Alternates (upcoming previous.live[c]?) (phasesOf c (previous.transitions current))
      (upcoming current.live[c]?) := by
  rw [phasesOf_transitions hp hc]
  exact alternates_shown _ _

end Sample

end Conntrack

end FlowAudit
