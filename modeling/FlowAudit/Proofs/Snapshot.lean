import FlowAudit.Proofs.Conntrack.Batch
import FlowAudit.Proofs.Correlator.Separation
import FlowAudit.Proofs.Host.Lookup
import FlowAudit.Snapshot

/-!
# A snapshot and a watch of the same table

A snapshot hands the live rows of a table to a correlator of its own, which leaves out repetitions.
If that has room for all of them, and if the snapshot is quick enough, each connection with a live
row is answered exactly once (`connections_records`).

A watch goes by the first row of a connection alone. A connection whose first row is over although
another one is live is `Disputed`: it is listed in a snapshot, while a watch that reads the same
text closes it. About all other connections the two agree (`connections_take`).
-/

namespace FlowAudit

open Conntrack (Table)
open Transition (phasesOf)

/-- An OPEN that repeats a remembered one is answered as a repetition. -/
theorem Correlator.fst_correlate_repeated {c : Correlator} {o : Observation}
    (hphase : o.transition.phase = .opened) (hdup : c.isDuplicate o.hash o.now = true) :
    (c.correlate o).1 = .duplicateOpen o.hash := by
  have hc := c.correlates o
  generalize c.correlate o = x at hc ⊢
  cases hc with
  | duplicate => rfl
  | opened _ hdup' => simp [hdup] at hdup'
  | suppressed _ hphase' | paired _ hphase' | orphan hphase' => simp [hphase] at hphase'

namespace Snapshot

/-! ### The correlator of a snapshot -/

/-- What the correlator of a snapshot knows in front of the connection with number `n`, when those
in `seen` came before. -/
structure Surveyed (around : Nat → Surroundings) (seen : Finset Connection) (n : Nat)
    (c : Correlator) : Prop where
  tracks : c.Tracks (seen.image .of)
  earlier : ∀ h s, c.remembered h = some s → ∃ i < n, s.firstSeen = (around i).now

theorem surveyed_new (around : Nat → Surroundings) (settings : CorrelatorSettings) :
    Surveyed around ∅ 0 (.new settings) where
  tracks := by simpa using Correlator.tracks_new settings
  earlier h s hs := by simp [Correlator.remembered_new] at hs

namespace Surveyed

variable {around : Nat → Surroundings} {seen : Finset Connection} {n : Nat} {c : Correlator}
  {k : Connection} {found : Resolution}

/-- A connection that was seen is a repetition, if the snapshot is quick enough. -/
theorem fst_correlate_of_mem (hs : Surveyed around seen n c)
    (hquick : ∀ i < n, (around n).now - (around i).now < c.duplicateWindow) (hk : k ∈ seen) :
    (c.correlate ((around n).observation ⟨.opened, k⟩ found)).1 = .duplicateOpen (.of k) := by
  set o := (around n).observation ⟨.opened, k⟩ found
  have hash : o.hash = .of k := Correlator.Observation.hash_eq rfl
  have hsome := (hs.tracks.isSome_iff (.of k)).mpr (Finset.mem_image_of_mem _ hk)
  obtain ⟨s, hremembered⟩ := Option.isSome_iff_exists.mp hsome
  obtain ⟨i, hi, hfirst⟩ := hs.earlier _ s hremembered
  have hdup : c.isDuplicate o.hash o.now = true := by
    rw [Correlator.isDuplicate_eq_true_iff, hash]
    refine ⟨s, hremembered, ?_⟩
    rw [hfirst]
    exact hquick i hi
  rw [Correlator.fst_correlate_repeated rfl hdup, hash]

/-- A connection that was not seen is an event, if its hash is its own. -/
theorem fst_correlate_of_notMem (hs : Surveyed around seen n c)
    (hhash : Set.InjOn ConnectionHash.of ↑(insert k seen)) (hk : k ∉ seen) :
    (c.correlate ((around n).observation ⟨.opened, k⟩ found)).1 =
      .event (((around n).observation ⟨.opened, k⟩ found).event (around n).fresh) := by
  set o := (around n).observation ⟨.opened, k⟩ found
  have hash : o.hash = .of k := Correlator.Observation.hash_eq rfl
  refine Correlator.fst_correlate_opened rfl ?_
  refine Correlator.isDuplicate_eq_false_of_remembered ?_ o.now
  rw [← Option.not_isSome_iff_eq_none, hs.tracks.isSome_iff, Finset.mem_image, hash]
  rintro ⟨k', hk', heq⟩
  have hsame : k' = k := hhash (by simp [hk']) (by simp) heq
  exact hk (hsame ▸ hk')

/-- Behind a connection, it is seen as well. -/
theorem step (hs : Surveyed around seen n c) (k : Connection) (found : Resolution)
    (hroom : (insert k seen).card ≤ c.opened.capacity) :
    Surveyed around (insert k seen) (n + 1)
      (c.correlate ((around n).observation ⟨.opened, k⟩ found)).2 := by
  set o := (around n).observation ⟨.opened, k⟩ found with ho
  have htrack : Correlator.track (seen.image .of) (.observe o) = (insert k seen).image .of := by
    simp [Correlator.track, Correlator.Observation.hash, ho, Surroundings.observation]
  have hkeep : ∀ h, ¬ Correlator.Step.Forgets ⟨c, .observe o⟩ h := by
    refine hs.tracks.not_forgets ?_
    rw [htrack]
    exact Finset.card_image_le.trans hroom
  have htracks := hs.tracks.act hkeep
  rw [htrack] at htracks
  refine ⟨htracks, fun h s hs' => ?_⟩
  have hlater (hold : c.remembered h = some s) : ∃ i < n + 1, s.firstSeen = (around i).now := by
    obtain ⟨i, hi, hfirst⟩ := hs.earlier h s hold
    exact ⟨i, Nat.lt_succ_of_lt hi, hfirst⟩
  by_cases hh : h = o.hash
  · subst hh
    by_cases hdup : c.isDuplicate o.hash o.now = true
    · have hcases := c.correlates o
      generalize c.correlate o = x at hcases hs'
      cases hcases with
      | duplicate => exact hlater hs'
      | opened _ hdup' => simp [hdup] at hdup'
      | suppressed _ hphase | paired _ hphase | orphan hphase => cases hphase
    · rw [Bool.not_eq_true] at hdup
      rw [Correlator.remembered_correlate_opened hs.tracks.valid rfl hdup] at hs'
      obtain rfl := Option.some.inj hs'
      exact ⟨n, Nat.lt_succ_self n, rfl⟩
  · refine hlater ?_
    rw [← Correlator.remembered_correlate_of_ne hs.tracks.valid hh, hs']
    exact fun s' hforgot => hkeep h ⟨o, s', rfl, hforgot⟩

end Surveyed

/-! ### The records of a snapshot -/

/-- Each connection is answered once, however often it is handed to the correlator. -/
theorem connections_recordsFrom (agent : Uuid) {around : Nat → Surroundings}
    {seen : Finset Connection} {n : Nat} (r : Resolver) {c : Correlator} (ks : List Connection)
    (hs : Surveyed around seen n c)
    (hroom : (seen ∪ ks.toFinset).card ≤ c.opened.capacity)
    (hquick : ∀ i j, i ≤ j → j < n + ks.length →
      (around j).now - (around i).now < c.duplicateWindow)
    (hhash : Set.InjOn ConnectionHash.of ↑(seen ∪ ks.toFinset)) :
    ((recordsFrom agent around n r c ks).map (·.connection)).Nodup ∧
      ∀ k, k ∈ (recordsFrom agent around n r c ks).map (·.connection) ↔ k ∈ ks ∧ k ∉ seen := by
  induction ks generalizing seen n r c with
  | nil => simp [recordsFrom]
  | cons k ks ih =>
    obtain ⟨found, hfound⟩ : ∃ found, ((around n).observe r ⟨.opened, k⟩).1 =
      (around n).observation ⟨.opened, k⟩ found := ⟨_, rfl⟩
    have hunion : insert k seen ∪ ks.toFinset = seen ∪ (k :: ks).toFinset := by
      rw [List.toFinset_cons, Finset.insert_union, Finset.union_insert]
    have hsubset : insert k seen ⊆ seen ∪ (k :: ks).toFinset := by
      rw [← hunion]
      exact Finset.subset_union_left
    have hstep := hs.step k found ((Finset.card_le_card hsubset).trans hroom)
    have hcapacity := (Correlator.valid_correlate hs.tracks.valid
      ((around n).observation ⟨.opened, k⟩ found)).2
    have hwindow := Correlator.Step.duplicateWindow_after
      ⟨c, .observe ((around n).observation ⟨.opened, k⟩ found)⟩
    have hrest := ih ((around n).observe r ⟨.opened, k⟩).2 hstep
      (by rw [hunion, hcapacity]; exact hroom)
      (fun i j hij hj => by
        rw [show (c.correlate ((around n).observation ⟨.opened, k⟩ found)).2.duplicateWindow =
          c.duplicateWindow from hwindow]
        exact hquick i j hij (by rw [List.length_cons]; omega))
      (by rw [hunion]; exact hhash)
    rw [recordsFrom]
    simp only [hfound]
    by_cases hk : k ∈ seen
    · rw [hs.fst_correlate_of_mem (fun i hi => hquick i n hi.le (by simp)) hk]
      rw [Finset.insert_eq_of_mem hk] at hrest
      refine ⟨hrest.1, fun k' => (hrest.2 k').trans ?_⟩
      rw [List.mem_cons]
      refine and_congr_left fun hk' => ⟨.inr, ?_⟩
      rintro (rfl | hmem)
      · exact absurd hk hk'
      · exact hmem
    · rw [hs.fst_correlate_of_notMem (hhash.mono (by exact_mod_cast hsubset)) hk]
      obtain ⟨hnodup, hmem⟩ := hrest
      simp only [List.map_cons, List.nodup_cons, List.mem_cons]
      refine ⟨⟨fun hin => ?_, hnodup⟩, fun k' => ?_⟩
      · exact ((hmem k).mp hin).2 (Finset.mem_insert_self k seen)
      · show k' = k ∨ _ ↔ _
        rw [hmem k', Finset.mem_insert]
        by_cases heq : k' = k
        · subst heq
          simp [hk]
        · simp [heq]

theorem take_of_readText {c : Configuration} {files : FileTree} {text : String} (agent : Uuid)
    (around : Nat → Surroundings)
    (hread : files.readText (Conntrack.tablePath c.source.procRoot) = .ok text) :
    take c agent files around = .ok (records c agent around text) := by
  simp only [take, hread]

/-- Each connection with a live row is answered once, if there is room for all of them, if the
snapshot is quick enough, and if no two connections are taken for each other. -/
theorem connections_records {c : Configuration} {around : Nat → Surroundings} {text : String}
    (agent : Uuid)
    (hroom : (Table.parse text).entries.length ≤ c.correlator.capacity)
    (hquick : ∀ i j, i ≤ j → j < (Table.parse text).entries.length →
      (around j).now - (around i).now < c.correlator.duplicateWindow.toNat)
    (hhash : Set.InjOn ConnectionHash.of {k | ∃ e ∈ (Table.parse text).entries, e.connection = k}) :
    ((records c agent around text).map (·.connection)).Nodup ∧
      ∀ k, k ∈ (records c agent around text).map (·.connection) ↔
        ∃ e ∈ (Table.parse text).entries, e.connection = k ∧ e.live = true := by
  set entries := (Table.parse text).entries
  set ks := (entries.filter (·.live)).map (·.connection) with hks
  have hlength : ks.length ≤ entries.length := by
    rw [hks, List.length_map]
    exact List.length_filter_le _ _
  have hmem (k : Connection) : k ∈ ks ↔ ∃ e ∈ entries, e.connection = k ∧ e.live = true := by
    simp only [hks, List.mem_map, List.mem_filter]
    exact exists_congr fun e => by tauto
  have hrecords := connections_recordsFrom agent (.new c.resolverRoot c.resolver) ks
    (surveyed_new around c.correlator) ?_ ?_ ?_
  · refine ⟨hrecords.1, fun k => (hrecords.2 k).trans ?_⟩
    rw [← hmem k]
    simp
  · rw [Finset.empty_union]
    exact (List.toFinset_card_le ks).trans (hlength.trans (hroom.trans (Nat.le_max_left _ _)))
  · exact fun i j hij hj => hquick i j hij (by omega)
  · refine hhash.mono fun k hk => ?_
    obtain ⟨e, he, heq, -⟩ := (hmem k).mp (by simpa using hk)
    exact ⟨e, he, heq⟩

end Snapshot

/-! ### A watch that reads a text once -/

namespace Conntrack

/-- The first row for a connection is over, although another one is live. -/
def Table.Disputed (table : Table) (k : Connection) : Prop :=
  (∃ e, table.entries.find? (fun e => e.connection = k) = some e ∧ e.live = false) ∧
    ∃ e ∈ table.entries, e.connection = k ∧ e.live = true

theorem Table.Disputed.not_live {table : Table} {k : Connection} (h : table.Disputed k) :
    ¬ ∃ e, table.entries.find? (fun e => e.connection = k) = some e ∧ e.live = true := by
  rintro ⟨e, he, hlive⟩
  obtain ⟨⟨e', he', hover⟩, -⟩ := h
  obtain rfl : e = e' := Option.some.inj (he.symm.trans he')
  simp [hlive] at hover

/-- The connections with a live row are those whose first row is live and the disputed ones. -/
theorem Table.exists_live_iff (table : Table) (k : Connection) :
    (∃ e ∈ table.entries, e.connection = k ∧ e.live = true) ↔
      (∃ e, table.entries.find? (fun e => e.connection = k) = some e ∧ e.live = true) ∨
        table.Disputed k := by
  constructor
  · rintro ⟨e, he, hk, hlive⟩
    obtain ⟨first, hfirst⟩ : ∃ first, table.entries.find? (fun e => e.connection = k) =
        some first := by
      rw [← Option.isSome_iff_exists, List.find?_isSome]
      exact ⟨e, he, by simpa using hk⟩
    cases hover : first.live with
    | true => exact .inl ⟨first, hfirst, hover⟩
    | false => exact .inr ⟨⟨first, hfirst, hover⟩, e, he, hk, hlive⟩
  · rintro (⟨e, hfirst, hlive⟩ | ⟨-, hlive⟩)
    · exact ⟨e, List.mem_of_find?_eq_some hfirst, by simpa using List.find?_some hfirst, hlive⟩
    · exact hlive

namespace Watch

variable {settings : SourceSettings} {rounds : List Round} {steps : List Step} {w : Watch}
  {text : String}

/-- When all is answered that a text shows, the connections that opened last are those whose first
row is live. -/
theorem Run.getLast?_phasesOf_eq_opened_iff (h : (new settings).Run rounds steps w)
    (htexts : texts steps = [text]) (hpending : w.pending = []) (k : Connection) :
    (phasesOf k (transitions steps)).getLast? = some .opened ↔
      ∃ e, (Table.parse text).entries.find? (fun e => e.connection = k) = some e ∧
        e.live = true := by
  have hfirst : Phase.Alternates .opened (phasesOf k (new settings).pending)
      (Sample.upcoming (new settings).previous.live[k]?) := by
    simpa [new, Sample.empty, Sample.upcoming] using Phase.Alternates.nil .opened
  have halt := h.yields.alternates_pending Sample.faithful_empty k hfirst
  rw [hpending, List.append_nil] at halt
  rw [halt.getLast?_eq_opened_iff, h.live_eq, htexts]
  exact Sample.upcoming_ofEntries_eq_closed_iff _ k

/-- A watch answers what is pending, one transition after the other. -/
theorem exists_run_answers (hfinished : w.finished = false) :
    ∃ rounds steps, w.Run rounds steps { w with pending := [] } ∧ texts steps = [] := by
  obtain ⟨pending, hpending⟩ : ∃ pending, w.pending = pending := ⟨_, rfl⟩
  induction pending generalizing w with
  | nil =>
    refine ⟨[], [], ?_, rfl⟩
    rw [← hpending]
    exact .nil w
  | cons t pending ih =>
    have hturn : w.turn (calm "") = (some (.transition t), { w with pending := pending }) := by
      simp [turn, calm, hfinished, hpending]
    have htask : w.task (calm "") = .answer := by
      simp [task, calm, hfinished, hpending]
    obtain ⟨rounds, steps, hrun, htexts⟩ := ih (w := { w with pending := pending }) hfinished rfl
    refine ⟨_, _, .cons (.of_turn hturn) hrun, ?_⟩
    rw [texts_cons, htexts]
    simp [Step.text?, Step.reading?, Step.task, htask]

/-- A watch may read a text and answer all that it shows. -/
theorem exists_run_text (settings : SourceSettings) (text : String) :
    ∃ rounds steps w, (new settings).Run rounds steps w ∧ texts steps = [text] ∧
      w.pending = [] := by
  have hread : (new settings).turn (calm text) = (none, (new settings).take text) := by
    simp [turn, calm, new]
  have htask : (new settings).task (calm text) = .read := by simp [task, calm, new]
  obtain ⟨rounds, steps, hrun, htexts⟩ := exists_run_answers (w := (new settings).take text) rfl
  refine ⟨_, _, _, .cons (.of_turn hread) hrun, ?_, rfl⟩
  rw [texts_cons, htexts]
  simp [Step.text?, Step.reading?, Step.task, htask]
  rfl

end Watch

end Conntrack

/-! ### A snapshot beside a watch -/

namespace Snapshot

open Conntrack

/-- The records of a snapshot are those of the connections with a live row, each once, if there is
room for all of them, if the snapshot is quick enough, and if no two connections are taken for each
other. A watch that has read the same text, and has answered all that it shows, agrees about a
connection, having opened it last, if and only if the connection is not disputed. -/
theorem connections_take {c : Configuration} (agent : Uuid) {files : FileTree}
    (around : Nat → Surroundings) {text : String}
    (hread : files.readText (tablePath c.source.procRoot) = .ok text)
    (hroom : (Table.parse text).entries.length ≤ c.correlator.capacity)
    (hquick : ∀ i j, i ≤ j → j < (Table.parse text).entries.length →
      (around j).now - (around i).now < c.correlator.duplicateWindow.toNat)
    (hhash : Set.InjOn ConnectionHash.of {k | ∃ e ∈ (Table.parse text).entries, e.connection = k}) :
    ∃ records, take c agent files around = .ok records ∧
      (records.map (·.connection)).Nodup ∧
      (∀ k, k ∈ records.map (·.connection) ↔
        ∃ e ∈ (Table.parse text).entries, e.connection = k ∧ e.live = true) ∧
      ∀ (settings : SourceSettings) (rounds : List Round) (steps : List Watch.Step) (w : Watch),
        (Watch.new settings).Run rounds steps w → Watch.texts steps = [text] → w.pending = [] →
        ∀ k,
          ((phasesOf k (Watch.transitions steps)).getLast? = some .opened →
            k ∈ records.map (·.connection)) ∧
          ((k ∈ records.map (·.connection) ↔
            (phasesOf k (Watch.transitions steps)).getLast? = some .opened) ↔
              ¬ (Table.parse text).Disputed k) := by
  obtain ⟨hnodup, hlisted⟩ := connections_records agent hroom hquick hhash
  refine ⟨records c agent around text, take_of_readText agent around hread, hnodup, hlisted, ?_⟩
  intro settings rounds steps w hrun htexts hpending k
  rw [hlisted, hrun.getLast?_phasesOf_eq_opened_iff htexts hpending k, Table.exists_live_iff]
  refine ⟨.inl, fun hagree hd => ?_, fun hd => ⟨fun h => h.resolve_right hd, .inl⟩⟩
  exact hd.not_live (hagree.mp (.inr hd))

/-! ### Two rows for one connection -/

open Conntrack.Watch (established contradictory dialled)

/-- The files of a host whose table has the given text. -/
def tableHost (text : String) : FileTree :=
  .directory [("proc", .directory [("net", .directory [("nf_conntrack", .file text.toUTF8)])])]

/-- A snapshot of which each row takes a millisecond. -/
def unhurried (files : FileTree) (n : Nat) : Surroundings :=
  ⟨.still files fun _ => none, ⟨0, n.toUInt64⟩, default, n⟩

theorem readText_tableHost (text : String) (htext : String.fromUTF8? text.toUTF8 = some text) :
    (tableHost text).readText (tablePath ({} : Configuration).source.procRoot) = .ok text :=
  FileTree.readText_of_lookup (FileTree.lookup_of_at? ["proc", "net"] "nf_conntrack" (by decide)
    (by decide +kernel) (by decide) rfl (by simp)) htext

/-- A snapshot of two rows is quick enough. -/
theorem unhurried_lt (files : FileTree) {i j : Nat} (hj : j < 2) :
    (unhurried files j).now - (unhurried files i).now <
      ({} : Configuration).correlator.duplicateWindow.toNat := by
  show j - i < 2000
  omega

/-- The hash of the only connection with a row is its own. -/
theorem injOn_hash (table : Table) (k : Connection) (h : ∀ e ∈ table.entries, e.connection = k) :
    Set.InjOn ConnectionHash.of {k | ∃ e ∈ table.entries, e.connection = k} := by
  rintro _ ⟨e, he, rfl⟩ _ ⟨e', he', rfl⟩ -
  rw [h e he, h e' he']

/-- The connection twice, as one that is established. -/
def repeated : String :=
  established ++ "\n" ++ established

theorem parse_repeated : Table.parse repeated = ⟨[⟨dialled, true⟩, ⟨dialled, true⟩], 0⟩ := by
  decide +kernel

/-- A connection that is listed twice is answered once, and a watch leaves it open. -/
theorem connections_take_of_repeated :
    ∃ records, take {} .nil (tableHost repeated) (unhurried (tableHost repeated)) = .ok records ∧
      records.map (·.connection) = [dialled] ∧
      ∃ (rounds : List Round) (steps : List Watch.Step) (w : Watch),
        (Watch.new {}).Run rounds steps w ∧ Watch.texts steps = [repeated] ∧ w.pending = [] ∧
          (phasesOf dialled (Watch.transitions steps)).getLast? = some .opened := by
  have hread := readText_tableHost repeated (by decide +kernel)
  obtain ⟨records, htake, hnodup, hlisted, hagree⟩ := connections_take .nil
    (unhurried (tableHost repeated)) hread (by rw [parse_repeated]; decide)
    (fun i j _ hj => unhurried_lt _ (by rwa [parse_repeated] at hj))
    (injOn_hash (Table.parse repeated) dialled (by simp [parse_repeated]))
  simp only [parse_repeated] at hlisted hagree
  have hdialled (k : Connection) : k ∈ records.map (·.connection) ↔ k ∈ [dialled] := by
    rw [hlisted, List.mem_singleton]
    constructor
    · rintro ⟨e, he, rfl, -⟩
      obtain rfl : e = ⟨dialled, true⟩ := by simpa using he
      rfl
    · rintro rfl
      exact ⟨⟨dialled, true⟩, by simp, rfl, rfl⟩
  have hperm : (records.map (·.connection)).Perm [dialled] :=
    (List.perm_ext_iff_of_nodup hnodup (List.nodup_singleton _)).mpr hdialled
  obtain ⟨rounds, steps, w, hrun, htexts, hpending⟩ := Watch.exists_run_text {} repeated
  refine ⟨records, htake, List.perm_singleton.mp hperm, rounds, steps, w, hrun, htexts, hpending,
    ?_⟩
  have hsame := (hagree {} rounds steps w hrun htexts hpending dialled).2.mpr ?_
  · exact hsame.mp (by simp [hdialled])
  · simp [Table.Disputed]

/-- A connection that is listed as over and then as established is answered in a snapshot, although
there is room for both rows, the snapshot is quick and no other connection has its hash. A watch of
the same text does not leave it open. -/
theorem listed_of_contradictory :
    (tableHost contradictory).readText (tablePath ({} : Configuration).source.procRoot) =
        .ok contradictory ∧
      (Table.parse contradictory).entries.length ≤ ({} : Configuration).correlator.capacity ∧
      (∀ i j, i ≤ j → j < (Table.parse contradictory).entries.length →
        (unhurried (tableHost contradictory) j).now - (unhurried (tableHost contradictory) i).now <
          ({} : Configuration).correlator.duplicateWindow.toNat) ∧
      Set.InjOn ConnectionHash.of
        {k | ∃ e ∈ (Table.parse contradictory).entries, e.connection = k} ∧
      ∃ records, take {} .nil (tableHost contradictory) (unhurried (tableHost contradictory)) =
          .ok records ∧
        dialled ∈ records.map (·.connection) ∧
        ∃ (rounds : List Round) (steps : List Watch.Step) (w : Watch),
          (Watch.new {}).Run rounds steps w ∧ Watch.texts steps = [contradictory] ∧
            w.pending = [] ∧
            (phasesOf dialled (Watch.transitions steps)).getLast? ≠ some .opened := by
  have hread := readText_tableHost contradictory (by decide +kernel)
  have hroom : (Table.parse contradictory).entries.length ≤
      ({} : Configuration).correlator.capacity := by
    rw [Watch.parse_contradictory]
    decide
  have hquick : ∀ i j, i ≤ j → j < (Table.parse contradictory).entries.length →
      (unhurried (tableHost contradictory) j).now - (unhurried (tableHost contradictory) i).now <
        ({} : Configuration).correlator.duplicateWindow.toNat :=
    fun i j _ hj => unhurried_lt _ (by rwa [Watch.parse_contradictory] at hj)
  have hhash := injOn_hash (Table.parse contradictory) dialled
    (by simp [Watch.parse_contradictory])
  refine ⟨hread, hroom, hquick, hhash, _, take_of_readText .nil _ hread, ?_, ?_⟩
  · rw [(connections_records .nil hroom hquick hhash).2, Watch.parse_contradictory]
    exact ⟨⟨dialled, true⟩, by simp, rfl, rfl⟩
  · obtain ⟨rounds, steps, w, hrun, htexts, hpending⟩ := Watch.exists_run_text {} contradictory
    refine ⟨rounds, steps, w, hrun, htexts, hpending, ?_⟩
    rw [Ne, hrun.getLast?_phasesOf_eq_opened_iff htexts hpending, Watch.parse_contradictory]
    simp

end Snapshot

end FlowAudit
