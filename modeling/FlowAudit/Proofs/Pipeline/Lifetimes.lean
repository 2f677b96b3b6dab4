import FlowAudit.Proofs.Conntrack.Stream
import FlowAudit.Proofs.Pipeline.Trace

/-!
# Records of lifetimes

A pipeline that takes in what a watch answers, with room for all connections that are open at a
time, remembers the open connections and no other ones (`Tracks`). Such a run is `Regular`: every
OPEN is of a connection that is not remembered and makes none be forgotten, and every CLOSE is of
one that is remembered. Whatever the rules and the processes are, it follows that

* the records of a connection are OPENs, each followed by a CLOSE with its identifier and its hash,
  up to a last OPEN whose CLOSE is still to come (`Regular.paired`);
* an OPEN becomes a record if and only if its CLOSE does (`Regular.isSome_iff`);
* no OPEN counts as a repetition (`Regular.duplicates_after`).
-/

namespace FlowAudit.Pipeline

open Correlator (Observation)
open Transition (Orderly)

/-- Records of a connection: OPENs, each followed by the CLOSE of the same lifetime. -/
inductive Paired : List Record → Prop
  | nil : Paired []
  /-- The CLOSE of the last OPEN is still to come. -/
  | pending {r : Record} (hopen : r.phase = .opened) : Paired [r]
  | lifetime {r r' : Record} {rest : List Record} (hopen : r.phase = .opened)
    (hclose : r'.phase = .closed) (hid : r'.id = r.id) (hhash : r'.hash = r.hash)
    (hrest : Paired rest) : Paired (r :: r' :: rest)

variable {known : Set Connection} {capacity : Nat} {live : Finset Connection} {p : Pipeline}
  {o : Observation} {os : List Observation} {c : Connection}

/-! ### Regular runs -/

/-- A run in which every OPEN is of a connection that is not remembered and makes none be forgotten,
and every CLOSE is of a connection that is remembered. -/
inductive Regular (known : Set Connection) : Pipeline → List Observation → Prop
  | nil (p : Pipeline) : Regular known p []
  | opened {p : Pipeline} {o : Observation} {os : List Observation}
    (hphase : o.transition.phase = .opened) (hknown : o.transition.connection ∈ known)
    (hnone : p.correlator.remembered o.hash = none) (hkeep : p.correlator.forgotten o = none)
    (hrest : Regular known (p.process o).2 os) : Regular known p (o :: os)
  | closed {p : Pipeline} {o : Observation} {os : List Observation} {s : OpenConnection}
    (hphase : o.transition.phase = .closed) (hknown : o.transition.connection ∈ known)
    (hs : p.correlator.remembered o.hash = some s)
    (hrest : Regular known (p.process o).2 os) : Regular known p (o :: os)

/-- The correlator remembers the connections that are open and no other ones. -/
structure Tracks (known : Set Connection) (p : Pipeline) (live : Finset Connection) : Prop where
  valid : p.correlator.opened.Valid
  subset : ∀ c ∈ live, c ∈ known
  isSome : ∀ c ∈ live, (p.correlator.remembered (.of c)).isSome
  exists_of_isSome : ∀ h, (p.correlator.remembered h).isSome → ∃ c ∈ live, ConnectionHash.of c = h

theorem tracks_new (known : Set Connection) (agent : Uuid) (settings : CorrelatorSettings)
    (f : Filter) : Tracks known (new agent settings f) ∅ where
  valid := Correlator.valid_new settings
  subset := by simp
  isSome := by simp
  exists_of_isSome h hsome := by
    rw [show (new agent settings f).correlator = .new settings from rfl,
      Correlator.remembered_new] at hsome
    cases hsome

namespace Tracks

theorem remembered_eq_none (h : Tracks known p live) (hinj : Set.InjOn ConnectionHash.of known)
    (hknown : c ∈ known) (hnew : c ∉ live) : p.correlator.remembered (.of c) = none := by
  by_contra hsome
  obtain ⟨c', hlive, hhash⟩ := h.exists_of_isSome (.of c) (Option.isSome_iff_ne_none.mpr hsome)
  obtain rfl := hinj (h.subset c' hlive) hknown hhash
  exact hnew hlive

theorem size_le_card (h : Tracks known p live) : p.correlator.opened.size ≤ live.card := by
  have hkeys : ∀ k, (p.correlator.opened.get? k).isSome →
      k ∈ live.toList.map ConnectionHash.of := by
    intro k hk
    obtain ⟨c, hlive, rfl⟩ := h.exists_of_isSome k hk
    exact List.mem_map_of_mem (Finset.mem_toList.mpr hlive)
  have hle := h.valid.size_le_length hkeys
  rwa [List.length_map, Finset.length_toList] at hle

/-- While there is room for the open connections, opening one more makes none be forgotten. -/
theorem forgotten_eq_none (h : Tracks known p live) (hnew : c ∉ live)
    (hroom : (insert c live).card ≤ p.correlator.opened.capacity) :
    p.correlator.forgotten o = none := by
  refine Correlator.forgotten_eq_none_of_room h.valid (.inr ?_)
  rw [Finset.card_insert_of_notMem hnew] at hroom
  exact Nat.lt_of_le_of_lt h.size_le_card hroom

/-- An OPEN is remembered with all that were open before. -/
theorem opened (h : Tracks known p live) (ho : o.transition = ⟨.opened, c⟩) (hknown : c ∈ known)
    (hnone : p.correlator.remembered o.hash = none) (hkeep : p.correlator.forgotten o = none) :
    Tracks known (p.process o).2 (insert c live) := by
  have hhash : o.hash = .of c := Observation.hash_eq ho
  have hself := remembered_process_opened h.valid (by rw [ho])
    (Correlator.isDuplicate_eq_false_of_remembered hnone o.now)
  rw [hhash] at hself
  -- under every other hash all stays as it is
  refine ⟨(valid_process h.valid o).1, ?_, ?_, ?_⟩
  · intro c' hc'
    rcases Finset.mem_insert.mp hc' with rfl | hlive
    · exact hknown
    · exact h.subset c' hlive
  · intro c' hc'
    by_cases heq : ConnectionHash.of c' = .of c
    · rw [heq, hself]
      rfl
    · rw [remembered_process_of_keep h.valid (by rwa [hhash]) hkeep]
      rcases Finset.mem_insert.mp hc' with rfl | hlive
      · exact absurd rfl heq
      · exact h.isSome c' hlive
  · intro k hk
    by_cases heq : k = .of c
    · exact ⟨c, Finset.mem_insert_self c live, heq.symm⟩
    · rw [remembered_process_of_keep h.valid (by rwa [hhash]) hkeep] at hk
      obtain ⟨c', hlive, rfl⟩ := h.exists_of_isSome k hk
      exact ⟨c', Finset.mem_insert_of_mem hlive, rfl⟩

/-- After a CLOSE all the other ones are remembered. -/
theorem closed (h : Tracks known p live) (hinj : Set.InjOn ConnectionHash.of known)
    (ho : o.transition = ⟨.closed, c⟩) (hopen : c ∈ live) :
    Tracks known (p.process o).2 (live.erase c) := by
  have hhash : o.hash = .of c := Observation.hash_eq ho
  have hkeep : p.correlator.forgotten o = none := Correlator.forgotten_closed (by rw [ho])
  refine ⟨(valid_process h.valid o).1, ?_, ?_, ?_⟩
  · exact fun c' hc' => h.subset c' (Finset.mem_of_mem_erase hc')
  · intro c' hc'
    obtain ⟨hne, hlive⟩ := Finset.mem_erase.mp hc'
    -- another open connection has another hash
    have hne' : ConnectionHash.of c' ≠ o.hash := by
      rw [hhash]
      exact fun heq => hne (hinj (h.subset c' hlive) (h.subset c hopen) heq)
    rw [remembered_process_of_keep h.valid hne' hkeep]
    exact h.isSome c' hlive
  · intro k hk
    by_cases heq : k = o.hash
    · subst heq
      rw [remembered_process_closed (by rw [ho])] at hk
      cases hk
    · rw [remembered_process_of_keep h.valid heq hkeep] at hk
      obtain ⟨c', hlive, rfl⟩ := h.exists_of_isSome k hk
      refine ⟨c', Finset.mem_erase.mpr ⟨?_, hlive⟩, rfl⟩
      rintro rfl
      exact heq hhash.symm

/-- A pipeline that remembers what is open takes what is in order in a regular run. -/
theorem regular {ts : List Transition} (h : Tracks known p live)
    (hinj : Set.InjOn ConnectionHash.of known) (hcap : capacity ≤ p.correlator.opened.capacity)
    (hts : os.map Observation.transition = ts) (horderly : Orderly known capacity live ts) :
    Regular known p os := by
  induction horderly generalizing p os with
  | nil =>
    obtain rfl := List.map_eq_nil_iff.mp hts
    exact .nil p
  | opened hknown hnew hroom _ ih =>
    obtain ⟨o, os, rfl, ho, hos⟩ := List.map_eq_cons_iff.mp hts
    have hhash := Observation.hash_eq ho
    have hnone := h.remembered_eq_none hinj hknown hnew
    rw [← hhash] at hnone
    have hkeep := h.forgotten_eq_none (o := o) hnew (Nat.le_trans hroom hcap)
    refine .opened (by rw [ho]) (by rwa [ho]) hnone hkeep ?_
    refine ih (h.opened ho hknown hnone hkeep) ?_ hos
    rwa [(valid_process h.valid o).2]
  | closed hknown hopen _ ih =>
    obtain ⟨o, os, rfl, ho, hos⟩ := List.map_eq_cons_iff.mp hts
    have hhash := Observation.hash_eq ho
    have hsome := h.isSome _ hopen
    rw [← hhash] at hsome
    obtain ⟨s, hs⟩ := Option.isSome_iff_exists.mp hsome
    refine .closed (by rw [ho]) (by rwa [ho]) hs ?_
    refine ih (h.closed hinj ho hopen) ?_ hos
    rwa [(valid_process h.valid o).2]

end Tracks

/-! ### What regular runs make -/

/-- The OPEN of a connection that became a record, as long as its CLOSE is still to come. -/
inductive Owed (p : Pipeline) (c : Connection) : List Record → Prop
  | settled (h : ∀ s, p.correlator.remembered (.of c) = some s → s.suppressed = true) : Owed p c []
  | close {s : OpenConnection} {r : Record} (hs : p.correlator.remembered (.of c) = some s)
    (hsup : s.suppressed = false) (hopen : r.phase = .opened) (hid : r.id = s.id)
    (hhash : r.hash = .of c) : Owed p c [r]

/-- What is owed depends on what is remembered of the connection only. -/
theorem Owed.congr {p' : Pipeline} {owed : List Record} (h : Owed p c owed)
    (heq : p'.correlator.remembered (.of c) = p.correlator.remembered (.of c)) :
    Owed p' c owed := by
  cases h with
  | settled h => exact .settled fun s hs => h s (by rw [← heq, hs])
  | close hs hsup hopen hid hhash => exact .close (by rw [heq, hs]) hsup hopen hid hhash

/-- Nothing is owed to a connection that is not remembered. -/
theorem Owed.eq_nil {owed : List Record} (h : Owed p c owed)
    (hnone : p.correlator.remembered (.of c) = none) : owed = [] := by
  cases h with
  | settled => rfl
  | close hs => simp [hnone] at hs

/-- What an OPEN makes is owed its CLOSE. -/
theorem owed_opened (hv : p.correlator.opened.Valid) (ho : o.transition = ⟨.opened, c⟩)
    (hnone : p.correlator.remembered o.hash = none) :
    Owed (p.process o).2 c (p.process o).1.toList := by
  have hmark := remembered_process_opened hv (by rw [ho])
    (Correlator.isDuplicate_eq_false_of_remembered hnone o.now)
  rw [Observation.hash_eq ho] at hmark
  cases hr : (p.process o).1 with
  | none =>
    rw [hr] at hmark
    refine .settled fun s hs => ?_
    obtain rfl := Option.some.inj (hmark.symm.trans hs)
    rfl
  | some r =>
    obtain ⟨-, hphase, hhash⟩ := of_mem_process hr
    rw [ho] at hphase
    rw [Observation.hash_eq ho] at hhash
    rw [hr] at hmark
    exact .close hmark rfl hphase (id_of_mem_process_opened (by rw [ho]) hr) hhash

/-- The CLOSE that is owed to an OPEN goes with it, and nothing is owed behind it. -/
theorem Owed.closed {owed : List Record} {s : OpenConnection} (h : Owed p c owed)
    (ho : o.transition = ⟨.closed, c⟩) (hs : p.correlator.remembered o.hash = some s)
    {rest : List Record} (hrest : Paired rest) :
    Paired (owed ++ ((p.process o).1.toList ++ rest)) := by
  obtain ⟨hnone, hid⟩ := process_closed_of_remembered (by rw [ho]) hs
  rw [Observation.hash_eq ho] at hs
  cases h with
  | settled hsup =>
    rw [hsup s hs, Option.isNone_iff_eq_none] at hnone
    rw [hnone]
    exact hrest
  | @close s' r hs' hsup hopen hid' hhash =>
    obtain rfl := Option.some.inj (hs.symm.trans hs')
    cases hr : (p.process o).1 with
    | none => simp [hr, hsup] at hnone
    | some r' =>
      obtain ⟨-, hphase, hhash'⟩ := of_mem_process hr
      refine .lifetime hopen (by rw [hphase, ho]) ?_ ?_ hrest
      · rw [hid r' hr, hid']
      · rw [hhash', Observation.hash_eq ho, hhash]

namespace Regular

/-- Behind the first observation a regular run goes on; it changes nothing of other connections. -/
theorem of_cons (h : Regular known p (o :: os)) :
    Regular known (p.process o).2 os ∧ o.transition.connection ∈ known ∧
      p.correlator.forgotten o = none := by
  cases h with
  | opened _ hknown _ hkeep hrest => exact ⟨hrest, hknown, hkeep⟩
  | closed hphase hknown _ hrest => exact ⟨hrest, hknown, Correlator.forgotten_closed hphase⟩

theorem remembered_process (h : Regular known p (o :: os)) (hv : p.correlator.opened.Valid)
    (hinj : Set.InjOn ConnectionHash.of known) (hknown : c ∈ known)
    (hne : o.transition.connection ≠ c) :
    (p.process o).2.correlator.remembered (.of c) = p.correlator.remembered (.of c) := by
  obtain ⟨-, hknown', hkeep⟩ := h.of_cons
  refine remembered_process_of_keep hv (fun heq => hne ?_) hkeep
  exact hinj hknown' hknown heq.symm

/-- A regular run makes of a connection OPENs, each followed by the CLOSE of the same lifetime. -/
theorem paired_owed (h : Regular known p os) (hv : p.correlator.opened.Valid)
    (hinj : Set.InjOn ConnectionHash.of known) (hknown : c ∈ known) {owed : List Record}
    (howed : Owed p c owed) :
    Paired (owed ++ (p.records os).filter fun r => r.connection = c) := by
  induction os generalizing p owed with
  | nil =>
    cases howed with
    | settled => exact .nil
    | close _ _ hopen => exact .pending hopen
  | cons o os ih =>
    have hv' := (valid_process hv o).1
    have hrest := h.of_cons.1
    rw [records_cons, List.filter_append]
    by_cases hc : o.transition.connection = c
    · have hall : ((p.process o).1.toList.filter fun r => r.connection = c) =
          (p.process o).1.toList := by
        rw [List.filter_eq_self]
        intro r hr
        rw [(of_mem_process (Option.mem_toList.mp hr)).1, hc]
        exact decide_eq_true rfl
      rw [hall]
      cases h with
      | opened hphase _ hnone =>
        -- nothing was owed, and its record is owed a CLOSE
        have ho : o.transition = ⟨.opened, c⟩ := by rw [← hphase, ← hc]
        have hnil := howed.eq_nil (by rwa [← Observation.hash_eq ho])
        rw [hnil, List.nil_append]
        exact ih hrest hv' (owed_opened hv ho hnone)
      | closed hphase _ hs =>
        -- what was owed is made, and then nothing is remembered
        have ho : o.transition = ⟨.closed, c⟩ := by rw [← hphase, ← hc]
        refine howed.closed ho hs (ih hrest hv' (.settled fun s hs' => ?_))
        rw [← Observation.hash_eq ho, remembered_process_closed hphase] at hs'
        cases hs'
    · -- the record of another connection, which changes nothing of what is owed to this one
      have hnil : ((p.process o).1.toList.filter fun r => r.connection = c) = [] := by
        rw [List.filter_eq_nil_iff]
        intro r hr
        rw [(of_mem_process (Option.mem_toList.mp hr)).1]
        simpa using hc
      rw [hnil, List.nil_append]
      exact ih hrest hv' (howed.congr (h.remembered_process hv hinj hknown hc))

/-- The records of a connection in a regular run of a new pipeline are OPENs, each followed by the
CLOSE of the same lifetime. -/
theorem paired {agent : Uuid} {settings : CorrelatorSettings} {f : Filter}
    (h : Regular known (new agent settings f) os) (hinj : Set.InjOn ConnectionHash.of known)
    (hknown : c ∈ known) :
    Paired (((new agent settings f).records os).filter fun r => r.connection = c) := by
  refine h.paired_owed (Correlator.valid_new settings) hinj hknown (.settled fun s hs => ?_)
  rw [show (new agent settings f).correlator = .new settings from rfl,
    Correlator.remembered_new] at hs
  cases hs

/-- A regular run is regular up to any point and behind it. -/
theorem of_append {os' : List Observation} (h : Regular known p (os ++ os')) :
    Regular known (p.after os) os' := by
  induction os generalizing p with
  | nil => exact h
  | cons o os ih => exact ih h.of_cons.1

/-- What is remembered of a connection stays while nothing is observed of it. -/
theorem remembered_after {os' : List Observation} (h : Regular known p (os ++ os'))
    (hv : p.correlator.opened.Valid) (hinj : Set.InjOn ConnectionHash.of known) (hknown : c ∈ known)
    (hmid : ∀ o ∈ os, o.transition.connection ≠ c) :
    (p.after os).correlator.remembered (.of c) = p.correlator.remembered (.of c) := by
  induction os generalizing p with
  | nil => rfl
  | cons o os ih =>
    rw [List.forall_mem_cons] at hmid
    rw [after_cons, ih h.of_cons.1 (valid_process hv o).1 hmid.2,
      h.remembered_process hv hinj hknown hmid.1]

/-- In a regular run an OPEN becomes a record if and only if the CLOSE of the same lifetime does. -/
theorem isSome_iff {mid back : List Observation} {o' : Observation}
    (h : Regular known p (o :: (mid ++ o' :: back))) (hv : p.correlator.opened.Valid)
    (hinj : Set.InjOn ConnectionHash.of known) (hopen : o.transition = ⟨.opened, c⟩)
    (hclose : o'.transition = ⟨.closed, c⟩) (hmid : ∀ x ∈ mid, x.transition.connection ≠ c) :
    (p.process o).1.isSome ↔ ((((p.process o).2).after mid).process o').1.isSome := by
  cases h with
  | closed hphase => simp [hopen] at hphase
  | opened hphase hknown hnone _ hrest =>
    rw [hopen] at hknown
    have hmark := remembered_process_opened hv hphase
      (Correlator.isDuplicate_eq_false_of_remembered hnone o.now)
    -- the mark on the OPEN says whether it was left out, and is still there when the CLOSE comes
    have hkept := hrest.remembered_after (valid_process hv o).1 hinj hknown hmid
    rw [← Observation.hash_eq hopen, hmark, Observation.hash_eq hopen,
      ← Observation.hash_eq hclose] at hkept
    have hiff := (process_closed_of_remembered (by rw [hclose]) hkept).1
    rw [← Option.not_isNone, ← Option.not_isNone, hiff]

/-- In a regular run no OPEN counts as a repetition. -/
theorem duplicates_after (h : Regular known p os) :
    (p.after os).counters.duplicates = p.counters.duplicates := by
  induction os generalizing p with
  | nil => rfl
  | cons o os ih =>
    rw [after_cons, ih h.of_cons.1]
    refine duplicates_process fun hphase => ?_
    cases h with
    | opened _ _ hnone => exact Correlator.isDuplicate_eq_false_of_remembered hnone o.now
    | closed hphase' => simp [hphase] at hphase'

end Regular

/-! ### The records of a watched table -/

/-- A record is about a connection that was observed. -/
theorem exists_of_mem_records {r : Record} (hr : r ∈ p.records os) :
    ∃ o ∈ os, o.transition.connection = r.connection := by
  induction os generalizing p with
  | nil => cases hr
  | cons o os ih =>
    rw [records_cons, List.mem_append, Option.mem_toList] at hr
    rcases hr with hr | hr
    · exact ⟨o, List.mem_cons_self, (of_mem_process hr).1.symm⟩
    · obtain ⟨o', ho', hconn⟩ := ih hr
      exact ⟨o', List.mem_cons_of_mem o ho', hconn⟩

/-- The records of OPENs have the fresh identifiers, each at most once and in their order. -/
theorem ids_sublist (p : Pipeline) (os : List Observation) :
    (((p.records os).filter fun r => r.phase = .opened).map Record.id).Sublist
      (os.map Observation.fresh) := by
  induction os generalizing p with
  | nil => exact List.Sublist.refl []
  | cons o os ih =>
    rw [records_cons, List.filter_append, List.map_append, List.map_cons]
    cases hr : (p.process o).1 with
    | none => exact (ih _).cons _
    | some r =>
      rw [Option.toList_some]
      by_cases hphase : r.phase = .opened
      · have hid : r.id = o.fresh :=
          id_of_mem_process_opened (by rw [← (of_mem_process hr).2.1, hphase]) hr
        rw [List.filter_cons_of_pos (by simpa using hphase), List.map_cons, hid]
        exact (ih _).cons_cons _
      · rw [List.filter_cons_of_neg (by simpa using hphase)]
        exact (ih _).cons _

/-- The records made of what a watch answers, whatever is found about processes and whatever the
rules are, if there is room for all connections open at a time, no two connections have one hash and
fresh identifiers never repeat: those of a connection are OPENs, each followed by a CLOSE with its
identifier and hash; the OPEN of a lifetime becomes a record if and only if its CLOSE does;
lifetimes differ in their identifiers; and nothing counts as a repetition. -/
theorem records_of_yields (agent : Uuid) (settings : CorrelatorSettings) (f : Filter)
    {source : SourceSettings} {w : Conntrack.Watch} {rounds : List Conntrack.Round}
    (os : List Observation)
    (hyields : (Conntrack.Watch.new source).Yields rounds (os.map Observation.transition) w)
    (hroom : ∀ front, front <+: os.map Observation.transition →
      (Transition.openAfter front).card ≤ settings.capacity)
    (hhash : ∀ x ∈ os, ∀ y ∈ os, x.hash = y.hash →
      x.transition.connection = y.transition.connection)
    (hfresh : (os.map Observation.fresh).Nodup) :
    (∀ c, Paired (((new agent settings f).records os).filter fun r => r.connection = c)) ∧
      (∀ front mid back o o' c, os = front ++ o :: (mid ++ o' :: back) →
        o.transition = ⟨.opened, c⟩ → o'.transition = ⟨.closed, c⟩ →
        (∀ x ∈ mid, x.transition.connection ≠ c) →
        ((((new agent settings f).after front).process o).1.isSome ↔
          (((new agent settings f).after (front ++ o :: mid)).process o').1.isSome)) ∧
      ((((new agent settings f).records os).filter fun r => r.phase = .opened).map
        Record.id).Nodup ∧
      ((new agent settings f).after os).counters.duplicates = 0 := by
  set known := {c | ∃ t ∈ os.map Observation.transition, t.connection = c} with hknown
  have hinj : Set.InjOn ConnectionHash.of known := by
    intro c hc c' hc' heq
    obtain ⟨t, ht, rfl⟩ := hc
    obtain ⟨t', ht', rfl⟩ := hc'
    obtain ⟨x, hx, rfl⟩ := List.mem_map.mp ht
    obtain ⟨y, hy, rfl⟩ := List.mem_map.mp ht'
    exact hhash x hx y hy heq
  have hregular : Regular known (new agent settings f) os :=
    (tracks_new known agent settings f).regular hinj (Nat.le_max_left _ _) rfl
      (hyields.orderly hroom)
  refine ⟨fun c => ?_, ?_, (ids_sublist _ os).nodup hfresh, hregular.duplicates_after⟩
  · by_cases hc : c ∈ known
    · exact hregular.paired hinj hc
    -- a connection that was never observed has no records
    · have hnil : (((new agent settings f).records os).filter fun r => r.connection = c) = [] := by
        rw [List.filter_eq_nil_iff]
        intro r hr hconn
        obtain ⟨o, ho, heq⟩ := exists_of_mem_records hr
        exact hc ⟨o.transition, List.mem_map_of_mem ho, by simpa [heq] using hconn⟩
      rw [hnil]
      exact .nil
  · intro front mid back o o' c hos hopen hclose hmid
    rw [hos] at hregular
    rw [after_append, after_cons]
    refine hregular.of_append.isSome_iff ?_ hinj hopen hclose hmid
    exact (valid_after (Correlator.valid_new settings) front).1

/-! ### A connection that comes and goes -/

/-- A row of the table. -/
def row : String :=
  "ipv4 2 tcp 6 300 ESTABLISHED src=10.0.0.1 dst=1.1.1.1 sport=4000 dport=443"

/-- The connection in the row. -/
def listed : Connection :=
  ⟨.tcp, .v4 ⟨10, 0, 0, 1⟩, 4000, .v4 ⟨1, 1, 1, 1⟩, 443⟩

theorem parse_row : Conntrack.Table.parse row = ⟨[⟨listed, true⟩], 0⟩ := by
  decide +kernel

theorem parse_empty : Conntrack.Table.parse "" = ⟨[], 0⟩ := by
  decide +kernel

/-- The row is read and then it is gone. -/
theorem exists_yields_listed :
    ∃ rounds w,
      (Conntrack.Watch.new {}).Yields rounds [⟨.opened, listed⟩, ⟨.closed, listed⟩] w := by
  have hfirst : Conntrack.Sample.empty.transitions (.ofEntries [⟨listed, true⟩]) =
      [⟨.opened, listed⟩] := by
    simp [Conntrack.Sample.transitions, Conntrack.Sample.empty, Conntrack.Sample.ofEntries,
      Conntrack.Sample.firsts, Conntrack.Sample.opens, Conntrack.Sample.closesUnseen]
  have hsecond : (Conntrack.Sample.ofEntries [⟨listed, true⟩]).transitions (.ofEntries []) =
      [⟨.closed, listed⟩] := by
    simp [Conntrack.Sample.transitions, Conntrack.Sample.ofEntries, Conntrack.Sample.firsts,
      Conntrack.Sample.closes]
  obtain ⟨rounds, hopen⟩ := Conntrack.Watch.exists_yields_take (w := .new {}) rfl rfl row
  obtain ⟨rounds', hclose⟩ := Conntrack.Watch.exists_yields_take
    (w := { (Conntrack.Watch.new {}).take row with pending := [] }) rfl rfl ""
  rw [parse_row, show (Conntrack.Watch.new {}).previous = .empty from rfl, hfirst] at hopen
  rw [show ({ (Conntrack.Watch.new {}).take row with pending := [] } : Conntrack.Watch).previous =
    .ofEntries (Conntrack.Table.parse row).entries from rfl, parse_row, parse_empty,
    hsecond] at hclose
  exact ⟨_, _, hopen.append hclose⟩

/-- What is observed of the connection. -/
def observedListed (phase : Phase) (fresh : Uuid) : Observation :=
  ⟨⟨phase, listed⟩, .unresolved, fresh, default, 0⟩

/-- The records of the connection are an OPEN and its CLOSE, which stand or fall together. -/
theorem records_of_listed :
    Paired (((new .nil {} ⟨{}, 7, []⟩).records
        [observedListed .opened ⟨0, 1⟩, observedListed .closed ⟨0, 2⟩]).filter
          fun r => r.connection = listed) ∧
      (((new .nil {} ⟨{}, 7, []⟩).process (observedListed .opened ⟨0, 1⟩)).1.isSome ↔
        (((new .nil {} ⟨{}, 7, []⟩).process (observedListed .opened ⟨0, 1⟩)).2.process
          (observedListed .closed ⟨0, 2⟩)).1.isSome) := by
  obtain ⟨rounds, w, hyields⟩ := exists_yields_listed
  have hroom : ∀ front, front <+: [⟨.opened, listed⟩, ⟨.closed, listed⟩] →
      (Transition.openAfter front).card ≤ 65536 := by
    intro front hfront
    have hcard := Transition.card_foldl_apply_le ∅ front
    have hlength := hfront.length_le
    rw [Finset.card_empty] at hcard
    simp only [List.length_cons, List.length_nil] at hlength
    exact Nat.le_trans hcard (by omega)
  have h := records_of_yields .nil {} ⟨{}, 7, []⟩
    [observedListed .opened ⟨0, 1⟩, observedListed .closed ⟨0, 2⟩] hyields hroom
    (by decide +kernel) (by decide)
  exact ⟨h.1 listed, h.2.1 [] [] [] _ _ listed rfl rfl rfl (by simp)⟩

end FlowAudit.Pipeline
