import Mathlib.Data.List.Nodup
import FlowAudit.Proofs.Agent.Life
import FlowAudit.Proofs.Configuration.Reading
import FlowAudit.Proofs.Configuration.Validity
import FlowAudit.Proofs.Host.Lookup

/-!
# The names of sinks

The name of a sink is its kind and, in brackets, its place. A place is a text that was put together:
from an address, its scope and a port, or from a URL and the name of an index. What was put together
can be told again, because the name of an index holds no slash and only an IPv6 address has a scope
(`SinkTarget.eq_of_displayName_eq`). So the sinks of a configuration that was read and accepted have
names of their own, and so have the reports on them (`Configuration.nodup_names_of_parse`).
-/

namespace FlowAudit

/-! ### Names of targets -/

namespace SinkTarget

theorem toList_displayName (t : SinkTarget) :
    t.displayName.toList = t.kind.name.toList ++ '(' :: (t.place.toList ++ [')']) := by
  simp [displayName]

/-- A name tells the kind and the place. -/
theorem displayName_inj {s t : SinkTarget} :
    s.displayName = t.displayName ↔ s.kind = t.kind ∧ s.place = t.place := by
  have hmark (k : SinkKind) : '(' ∉ k.name.toList := by cases k <;> decide
  have hname {k k' : SinkKind} (h : k.name = k'.name) : k = k' := by
    cases k <;> cases k' <;> first | rfl | exact absurd h (by decide)
  rw [← String.toList_inj, toList_displayName, toList_displayName,
    Text.append_cons_inj (hmark s.kind) (hmark t.kind), List.append_cancel_right_eq,
    String.toList_inj, String.toList_inj]
  exact and_congr_left' ⟨hname, congrArg SinkKind.name⟩

/-- The place in a search index tells the URL and the name of the index. -/
theorem searchIndex_inj {url url' index index' : String} (hindex : '/' ∉ index.toList)
    (hindex' : '/' ∉ index'.toList) (h : url ++ "/" ++ index = url' ++ "/" ++ index') :
    url = url' ∧ index = index' := by
  have hlist : url.toList ++ '/' :: index.toList = url'.toList ++ '/' :: index'.toList := by
    simpa using congrArg String.toList h
  rw [Text.append_cons_inj_of_back hindex hindex', String.toList_inj, String.toList_inj] at hlist
  exact hlist

/-- Targets of one name are equal, if they make sense and name scopes only with IPv6 addresses. -/
theorem eq_of_displayName_eq {s t : SinkTarget} (hs : s.IsSound) (ht : t.IsSound)
    (hsfits : s.ScopeFits) (htfits : t.ScopeFits) (h : s.displayName = t.displayName) : s = t := by
  obtain ⟨hkind, hplace⟩ := displayName_inj.mp h
  cases s with
  | syslogLocal path =>
    cases t with
    | syslogLocal path' => exact congrArg (syslogLocal ⟨·⟩) hplace
    | _ => cases hkind
  | syslogTcp address =>
    cases t with
    | syslogTcp address' => exact congrArg syslogTcp (Endpoint.render_inj hsfits htfits hplace)
    | _ => cases hkind
  | syslogUdp address =>
    cases t with
    | syslogUdp address' => exact congrArg syslogUdp (Endpoint.render_inj hsfits htfits hplace)
    | _ => cases hkind
  | searchIndex url index =>
    cases t with
    | searchIndex url' index' =>
      obtain ⟨rfl, rfl⟩ := searchIndex_inj hs.2.2 ht.2.2 hplace
      rfl
    | _ => cases hkind
  | customEndpoint url =>
    cases t with
    | customEndpoint url' => exact congrArg customEndpoint hplace
    | _ => cases hkind

/-- Sound targets have names of their own: those of one name are equal, and so the same. -/
theorem nodup_displayName {ts : List SinkTarget} (hsound : AreSound ts)
    (hfits : ∀ t ∈ ts, t.ScopeFits) : (ts.map displayName).Nodup := by
  obtain ⟨heach, hpairs⟩ := areSound_iff_pairwise.mp hsound
  rw [List.Nodup, List.pairwise_map]
  refine hpairs.imp_of_mem fun {s t} hs ht hsame hname => ?_
  obtain rfl := eq_of_displayName_eq (heach s hs) (heach t ht) (hfits s hs) (hfits t ht) hname
  rw [same_self] at hsame
  cases hsame

end SinkTarget

/-! ### Names of lanes -/

namespace Delivery.Dispatcher

variable {α : Type} {d : Dispatcher α} {settings : DeliverySettings}
  {sinks : List (String × List Reaction)} {calls : List (Call α)} {stopped : Option Nat}

theorem names_mapWorkers (d : Dispatcher α) (f : Worker α → Worker α) :
    (d.mapWorkers f).lanes.map (·.name) = d.lanes.map (·.name) := by
  rw [mapWorkers, List.map_map]
  rfl

theorem names_mapLane (d : Dispatcher α) (i : Nat) (f : Worker α → Worker α) :
    (d.mapLane i f).lanes.map (·.name) = d.lanes.map (·.name) := by
  refine List.ext_getElem? fun j => ?_
  rw [List.getElem?_map, List.getElem?_map, getElem?_mapLane]
  split
  · rw [Option.map_map]
    rfl
  · rfl

/-- Lanes keep the names of their sinks. -/
theorem Run.names (h : Run settings sinks calls stopped d) :
    d.lanes.map (·.name) = sinks.map Prod.fst := by
  induction h with
  | new =>
    rw [Dispatcher.new, List.map_map]
    rfl
  | dispatch a _ ih => rw [Dispatcher.dispatch, names_mapWorkers, ih]
  | stop _ ih | clock _ _ ih => rw [names_mapWorkers, ih]
  | close i _ ih | event i _ _ _ _ ih => rw [names_mapLane, ih]
  | pass t _ _ ih => exact ih

theorem names_reports (d : Dispatcher α) : d.reports.map (·.name) = d.lanes.map (·.name) := by
  rw [reports, List.map_map]
  rfl

end Delivery.Dispatcher

/-! ### Names of the sinks of an agent -/

namespace Agent

/-- The names of the sinks that can be used are among those of all that are configured, in their
order. -/
theorem names_sublist {targets : List SinkTarget} (resources : SinkTarget → Sink.Resources) :
    ((targets.filterMap fun t => (Sink.connect (resources t) t).toOption).map (·.name)).Sublist
      (targets.map SinkTarget.displayName) := by
  induction targets with
  | nil => exact .slnil
  | cons t targets ih =>
    rw [List.filterMap_cons, List.map_cons, Sink.connect]
    cases Sink.Transport.ofTarget (resources t) t with
    | error => exact ih.cons _
    | ok transport => exact ih.cons_cons _

variable {c : Configuration} {fresh : Uuid} {pid : UInt32} {files : FileTree} {connect : Connect}
  {reactions : Sink → List Delivery.Reaction} {a : Agent}

theorem start_eq_ok_iff : start c fresh pid files connect reactions = .ok a ↔
    check c files = .ok () ∧ ∃ usable, connectSinks c connect = .ok usable ∧
      new c fresh pid (usable.map fun s => (s.name, reactions s)) = a := by
  unfold start
  cases check c files with
  | error e => exact iff_of_false nofun nofun
  | ok _ =>
    cases connectSinks c connect with
    | error e => exact iff_of_false nofun nofun
    | ok usable =>
      simp only [bind, Except.bind, pure, Except.pure, Except.ok.injEq, true_and, exists_eq_left']

/-- An agent that was started is new, with sinks of the names that they have in the
configuration. -/
theorem exists_new_of_start {resources : SinkTarget → Sink.Resources}
    (h : start c fresh pid files (fun t => Sink.connect (resources t) t) reactions = .ok a) :
    ∃ sinks, a = new c fresh pid sinks ∧
      (sinks.map Prod.fst).Sublist (c.sinks.map SinkTarget.displayName) := by
  obtain ⟨-, usable, husable, rfl⟩ := start_eq_ok_iff.mp h
  refine ⟨_, rfl, ?_⟩
  rw [List.map_map, eq_of_connectSinks husable]
  exact names_sublist resources

end Agent

namespace Configuration

/-- In a configuration that was taken from a text no two sinks have the same name. So it is with the
reports on the sinks of an agent, whatever happened to it: each is about one sink that is
configured. -/
theorem nodup_names_of_parse {text : String} {origin : Path} {c : Configuration}
    (h : parse text origin = .ok c) :
    (c.sinks.map SinkTarget.displayName).Nodup ∧
      ∀ (fresh : Uuid) (pid : UInt32) (files : FileTree) (resources : SinkTarget → Sink.Resources)
        (reactions : Sink → List Delivery.Reaction) (start : Agent),
        Agent.start c fresh pid files (fun t => Sink.connect (resources t) t) reactions =
          .ok start →
        ∀ stage taken calls a, Agent.Life start stage taken calls a →
          (a.dispatcher.reports.map (·.name)).Nodup ∧
            ∀ r ∈ a.dispatcher.reports, ∃! t, t ∈ c.sinks ∧ t.displayName = r.name := by
  obtain ⟨hread, hcheck⟩ := parse_eq_ok h
  have hnodup : (c.sinks.map SinkTarget.displayName).Nodup :=
    SinkTarget.nodup_displayName ((check_decides c).ok_iff.mp hcheck).sinks
      (scopeFits_of_ofYaml? hread)
  refine ⟨hnodup,
    fun fresh pid files resources reactions start hstart stage taken calls a hlife => ?_⟩
  obtain ⟨sinks, rfl, hsub⟩ := Agent.exists_new_of_start hstart
  have hnames : a.dispatcher.reports.map (·.name) = sinks.map Prod.fst := by
    rw [Delivery.Dispatcher.names_reports, hlife.run.names]
  refine ⟨by rw [hnames]; exact hnodup.sublist hsub, fun r hr => ?_⟩
  have hmem : r.name ∈ c.sinks.map SinkTarget.displayName :=
    hsub.subset (hnames ▸ List.mem_map_of_mem hr)
  obtain ⟨t, ht, hname⟩ := List.mem_map.mp hmem
  refine ⟨t, ⟨ht, hname⟩, fun s hs => ?_⟩
  exact List.inj_on_of_nodup_map hnodup hs.1 ht (hs.2.trans hname.symm)

/-! ### Places that are written alike -/

/-- Settings of two services at one place and of two log daemons at one address. -/
def alikeText : String :=
  "sinks:\n" ++
  "- [search_index, 'http://a', b]\n" ++
  "- [custom_endpoint, 'http://a/b']\n" ++
  "- [syslog_udp, '[fe80::1]:9']\n" ++
  "- [syslog_udp, '[fe80::1%2]:9']\n"

/-- The configuration with these settings. -/
def alike : Configuration where
  sinks := [.searchIndex "http://a" "b", .customEndpoint "http://a/b",
    .syslogUdp ⟨.v6 ⟨0xfe80, 0, 0, 0, 0, 0, 0, 1⟩, 9, 0⟩,
    .syslogUdp ⟨.v6 ⟨0xfe80, 0, 0, 0, 0, 0, 0, 1⟩, 9, 2⟩]

/-- The files of a host with an empty table. -/
def emptyTable : FileTree :=
  .directory [("proc", .directory [("net", .directory [("nf_conntrack", .file .empty)])])]

theorem checkOpen_emptyTable :
    emptyTable.checkOpen (Conntrack.tablePath alike.source.procRoot) = .ok () := by
  rw [FileTree.checkOpen, FileTree.lookup_of_at? ["proc", "net"] "nf_conntrack" (by decide)
    (by decide +kernel) (by decide) rfl (by simp)]
  rfl

/-- A host that sends datagrams to a link-local address only if it is told the scope. -/
def askingScope : Sink.Resources where
  sockets := ⟨.empty, [], 0⟩
  datagramSocket e :=
    match e.address with
    | .v4 _ => .ok ()
    | .v6 x => if x.g0 = 0xfe80 ∧ e.scope = 0 then .error .invalidArgument else .ok ()
  client := .ok ()

/-- All sinks have names of their own, and so have the reports on the three that can be used. -/
theorem nodup_names_of_alike :
    Configuration.parse alikeText defaultConfigurationPath = .ok alike ∧
      alike.sinks.map SinkTarget.displayName = ["search-index(http://a/b)",
        "custom-endpoint(http://a/b)", "syslog-udp([fe80::1]:9)", "syslog-udp([fe80::1%2]:9)"] ∧
      (alike.sinks.map SinkTarget.displayName).Nodup ∧
      ∃ start, Agent.start alike default 1 emptyTable (Sink.connect askingScope) (fun _ => []) =
          .ok start ∧
        start.dispatcher.reports.length = 3 ∧ (start.dispatcher.reports.map (·.name)).Nodup := by
  have hparse : Configuration.parse alikeText defaultConfigurationPath = .ok alike := by
    decide +kernel
  obtain ⟨hnodup, hreports⟩ := nodup_names_of_parse hparse
  have hcheck : Agent.check alike emptyTable = .ok () := by
    rw [Agent.check, checked, (parse_eq_ok hparse).2]
    simp only [Except.mapError, bind, Except.bind, checkOpen_emptyTable]
  have husable : (Agent.connectSinks alike (Sink.connect askingScope)).toOption.map List.length =
      some 3 := by
    decide +kernel
  cases hsinks : Agent.connectSinks alike (Sink.connect askingScope) with
  | error e =>
    rw [hsinks] at husable
    cases husable
  | ok usable =>
    have hstart : Agent.start alike default 1 emptyTable (Sink.connect askingScope) (fun _ => []) =
        .ok (Agent.new alike default 1 (usable.map fun s => (s.name, []))) :=
      Agent.start_eq_ok_iff.mpr ⟨hcheck, usable, hsinks, rfl⟩
    have hlength : usable.length = 3 := by
      rw [hsinks] at husable
      exact Option.some.inj husable
    refine ⟨hparse, by decide +kernel, hnodup, _, hstart, ?_, ?_⟩
    · rw [Delivery.Dispatcher.reports, Agent.new, Delivery.Dispatcher.new]
      simp only [List.length_map, hlength]
    · exact (hreports _ _ _ (fun _ => askingScope) _ _ hstart _ _ _ _ .start).1

end Configuration

end FlowAudit
