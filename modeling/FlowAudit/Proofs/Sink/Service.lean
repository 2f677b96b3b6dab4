import FlowAudit.Configuration.Validity
import FlowAudit.Proofs.Sink.Http
import FlowAudit.Sink

/-!
# Where records are posted

A target that is a service and makes sense can be used if the host has a client for it, and its
records go to the scheme, the host and the port of its URL. They go below the path of this URL, in
the place for their phase, if nothing follows the path in the URL and the name of the index stands
for itself (`Sink.exists_postUrl?_of_check`).

What is put below a URL is put behind its text. So a query or a fragment takes it in, and then the
records of both phases go to the same path; and a name of an index that holds a question mark, a
number sign, a backslash, a tab or a line end, or that is made of dots, is not kept together.
-/

namespace FlowAudit

/-! ### Services -/

namespace SinkTarget

/-- The URL of a target that is a service. -/
def url? : SinkTarget → Option String
  | .syslogLocal _ | .syslogTcp _ | .syslogUdp _ => none
  | .searchIndex url _ | .customEndpoint url => some url

/-- The URL of a target that makes sense is one of a web server. -/
theorem parse_of_check {t : SinkTarget} (h : t.check = .ok ()) {url : String}
    (hurl : url ∈ t.url?) : ∃ u, Url.parse url = .ok u ∧ u.isWeb = true := by
  have hchecked : checkUrl url = .ok () := by
    cases t with
    | syslogLocal | syslogTcp | syslogUdp => cases hurl
    | customEndpoint url' =>
      obtain rfl := Option.some.inj hurl
      exact h
    | searchIndex url' index =>
      obtain rfl := Option.some.inj hurl
      rw [check] at h
      cases hurl' : checkUrl url' with
      | ok _ => rfl
      | error e =>
        rw [hurl'] at h
        cases h
  unfold checkUrl at hchecked
  split at hchecked
  · cases hchecked
  · rename_i u hparse
    refine ⟨u, hparse, ?_⟩
    split at hchecked
    · cases hchecked
    · rename_i hweb
      simpa using hweb

/-- The names behind the path of a service where the records of a phase are taken. -/
def placeNames : SinkTarget → Phase → List String
  | .searchIndex _ index, _ => [index, "_doc"]
  | .customEndpoint _, phase => ["connections", phase.name]
  | .syslogLocal _, _ | .syslogTcp _, _ | .syslogUdp _, _ => []

end SinkTarget

namespace Url

/-- Whether a name stands for itself in a path, and is kept together wherever it is put in the text
of a URL. A percent sign stands for itself too: with it begins what is encoded already, and the name
is not decoded nor encoded once more. -/
structure IsVerbatim (name : String) : Prop where
  isSingleDot : isSingleDot name.toList = false
  isDoubleDot : isDoubleDot name.toList = false
  isPlain : ∀ c ∈ name.toList, isPlain c = true

/-- A name as it stands in a path. What a path cannot hold is encoded; a percent sign it can hold,
and stays as it is. -/
def encodeName (name : String) : String :=
  String.ofList (encode inPath name.toList)

theorem IsVerbatim.isStep {name : String} (h : IsVerbatim name) : IsStep name.toList :=
  ⟨h.isSingleDot, h.isDoubleDot, fun c hc => (of_isPlain (h.isPlain c hc)).1⟩

theorem IsEncoded.of_mem_steps {u : Url} (hu : u.IsEncoded) :
    ∀ s ∈ u.steps.map String.toList, IsStep s ∧ encode inPath s = s ∧
      ∀ c ∈ s, inPath c = false := by
  obtain ⟨names, hpath, -⟩ := hu.path
  intro s hs
  refine hu.not_inPath hpath s ?_
  rw [steps, hpath] at hs
  exact List.map_subset _ (List.rdropWhile_prefix _ _).subset hs

end Url

namespace Sink

open Url (IsVerbatim encodeName isMark isPadding parsePath slashed)

/-! ### Names below a service -/

section Placed

variable {base : Url} {place : String} {names : List String}

/-- Behind a path that nothing follows, names that stand for themselves are part of it. -/
theorem parsePath_placed (hu : base.IsEncoded) (hbare : base.IsBare)
    (hplace : '/' :: place.toList = slashed (names.map String.toList))
    (hnames : ∀ name ∈ names, IsVerbatim name) :
    parsePath .special ((placed base place).takeWhile (!isMark ·)) =
        base.steps ++ names.map encodeName ∧
      ∀ c ∈ placed base place, isMark c = false := by
  have htext : placed base place =
      slashed (base.steps.map String.toList ++ names.map String.toList) := by
    rw [placed, Url.rdropWhile_behindAuthority hu hbare, hplace, slashed, slashed, slashed,
      List.flatMap_append]
  have hnames' : ∀ s ∈ names.map String.toList, Url.IsStep s ∧ ∀ c ∈ s, isMark c = false := by
    intro s hs
    obtain ⟨name, hname, rfl⟩ := List.mem_map.mp hs
    exact ⟨(hnames name hname).isStep, fun c hc =>
      (Url.of_isPlain ((hnames name hname).isPlain c hc)).2.1⟩
  have hmarks : ∀ c ∈ placed base place, isMark c = false := by
    rw [htext]
    refine Url.of_mem_slashed (by decide) ?_
    rw [List.forall_mem_append]
    exact ⟨fun s hs c hc => Url.isMark_of_not_inPath ((hu.of_mem_steps s hs).2.2 c hc),
      fun s hs => (hnames' s hs).2⟩
  have hsteps : ∀ s ∈ base.steps.map String.toList ++ names.map String.toList, Url.IsStep s := by
    rw [List.forall_mem_append]
    exact ⟨fun s hs => (hu.of_mem_steps s hs).1, fun s hs => (hnames' s hs).1⟩
  have hne : base.steps.map String.toList ++ names.map String.toList ≠ [] := by
    intro hnil
    rw [(List.append_eq_nil_iff.mp hnil).2] at hplace
    cases hplace
  refine ⟨?_, hmarks⟩
  rw [Url.takeWhile_of_notMark hmarks, htext, Url.parsePath_slashed hne hsteps, List.map_append,
    List.map_map, List.map_map]
  congr 1
  -- what was read is encoded already
  conv_rhs => rw [← List.map_id base.steps]
  refine List.map_congr_left fun name hname => ?_
  have hencode := (hu.of_mem_steps name.toList (List.mem_map_of_mem hname)).2.1
  rw [Function.comp_apply, hencode, String.ofList_toList, id]

/-- Nothing that is put behind a query or a fragment is part of the path. -/
theorem takeWhile_placed (hu : base.IsEncoded) (hbare : ¬base.IsBare) (place' : String) :
    (placed base place).takeWhile (!isMark ·) = (placed base place').takeWhile (!isMark ·) := by
  rw [← isMark_rdropWhile hu] at hbare
  rw [placed, placed, Url.takeWhile_append_of_isMark hbare, Url.takeWhile_append_of_isMark hbare]

/-- A place whose names stand for themselves counts, if it does not end in a blank. -/
theorem isPlace_of_isVerbatim (hplace : '/' :: place.toList = slashed (names.map String.toList))
    (hlast : ∀ c ∈ place.toList.getLast?, isPadding c = false)
    (hnames : ∀ name ∈ names, IsVerbatim name) : IsPlace place := by
  refine ⟨?_, fun c hc => ?_⟩
  · rw [hplace]
    refine Url.of_mem_slashed (by decide) fun s hs c hc => ?_
    obtain ⟨name, hname, rfl⟩ := List.mem_map.mp hs
    exact (Url.of_isPlain ((hnames name hname).isPlain c hc)).2.2
  · cases htext : place.toList with
    | nil =>
      rw [htext] at hc
      obtain rfl : '/' = c := by simpa using hc
      decide
    | cons d back =>
      rw [htext, List.getLast?_cons_cons, ← htext] at hc
      exact hlast c hc

/-- What is asked for below a service, at a place whose names stand for themselves, is there if
nothing follows the path of the service, and at the same path as everything else if something
does. -/
theorem exists_below_of_names {text : String} (h : Url.parse text = .ok base)
    (hweb : base.isWeb = true) (hplace : '/' :: place.toList = slashed (names.map String.toList))
    (hlast : ∀ c ∈ place.toList.getLast?, isPadding c = false) :
    ∃ u, below base place = .ok u ∧ u.scheme = base.scheme ∧ u.host? = base.host? ∧
      u.port? = base.port? ∧ ((∀ name ∈ names, IsVerbatim name) →
        (base.IsBare → u.path = .segments (base.steps ++ names.map encodeName) ∧ u.IsBare) ∧
        (¬base.IsBare →
          u.path = .segments (parsePath .special ((placed base "").takeWhile (!isMark ·))))) := by
  obtain ⟨-, hencoded⟩ := Url.exists_of_parse h hweb
  obtain ⟨u, hu, hscheme, hhost, hport, hrest⟩ := below_of_parse h hweb place
  refine ⟨u, hu, hscheme, hhost, hport, fun hnames => ?_⟩
  obtain ⟨hpath, hbare⟩ := hrest (isPlace_of_isVerbatim hplace hlast hnames)
  refine ⟨fun hnothing => ?_, fun hsomething => ?_⟩
  · obtain ⟨hsteps, hmarks⟩ := parsePath_placed hencoded hnothing hplace hnames
    rw [hpath, hsteps]
    exact ⟨rfl, hbare.mpr hmarks⟩
  · rw [hpath, takeWhile_placed hencoded hsomething ""]

end Placed

/-! ### Targets -/

/-- How the URL `u` that records are posted to goes back to the text `url` of a service, which is
read as `configured`: the place of the names is below it, if nothing follows its path. -/
structure IsPlacedBelow (url : String) (configured u : Url) (names : List String) : Prop where
  scheme : u.scheme = configured.scheme
  host : u.host? = configured.host?
  port : u.port? = configured.port?
  path : configured.IsBare → EndsPlainly url → (∀ name ∈ names, IsVerbatim name) →
    u.path = .segments (configured.steps ++ names.map encodeName) ∧ u.IsBare

/-- The place of a phase below a custom endpoint is written with two names. -/
theorem connectionPlace_spec (phase : Phase) :
    '/' :: ("connections/" ++ phase.name).toList =
        slashed (["connections", phase.name].map String.toList) ∧
      (∀ c ∈ ("connections/" ++ phase.name).toList.getLast?, isPadding c = false) ∧
      (∀ name ∈ ["connections", phase.name], IsVerbatim name) ∧
      ["connections", phase.name].map encodeName = ["connections", phase.name] := by
  have hname : IsVerbatim "connections" :=
    ⟨by decide, by decide, List.forall_iff_forall_mem.mp (by decide)⟩
  have hphase : IsVerbatim phase.name := by
    cases phase <;> exact ⟨by decide, by decide, List.forall_iff_forall_mem.mp (by decide)⟩
  refine ⟨?_, ?_, ?_, ?_⟩
  · cases phase <;> decide
  · intro c hc
    cases phase with
    | opened =>
      obtain rfl : 'n' = c := Option.some.inj hc
      decide
    | closed =>
      obtain rfl : 'e' = c := Option.some.inj hc
      decide
  · rw [List.forall_mem_cons, List.forall_mem_singleton]
    exact ⟨hname, hphase⟩
  · cases phase <;> decide

/-- The place of documents below a search index is written with two names. -/
theorem documentPlace_spec (index : String) :
    '/' :: (index ++ "/_doc").toList = slashed ([index, "_doc"].map String.toList) ∧
      ∀ c ∈ (index ++ "/_doc").toList.getLast?, isPadding c = false := by
  have htext : (index ++ "/_doc").toList = index.toList ++ ['/', '_', 'd', 'o'] ++ ['c'] := by
    simp
  refine ⟨by simp [slashed], fun c hc => ?_⟩
  rw [htext, List.getLast?_concat] at hc
  obtain rfl := Option.some.inj hc
  decide

/-- What is asked for below a service, at a place that is written with some names, is placed below
it. If the names stand for themselves, the path is that of the service and the names when nothing
follows it, and else the same for all places. -/
theorem exists_base_of_parse {url : String} {configured : Url}
    (h : Url.parse url = .ok configured) (hweb : configured.isWeb = true) :
    ∃ base, parseBase url = .ok base ∧ (base.IsBare ↔ configured.IsBare) ∧ ∃ common,
      ∀ {place : String} {names : List String},
        '/' :: place.toList = slashed (names.map String.toList) →
        (∀ c ∈ place.toList.getLast?, isPadding c = false) →
          ∃ u, below base place = .ok u ∧ IsPlacedBelow url configured u names ∧
            ((∀ name ∈ names, IsVerbatim name) →
              (base.IsBare → u.path = .segments (base.steps ++ names.map encodeName)) ∧
              (¬base.IsBare → u.path = common)) := by
  obtain ⟨base, hbase, hread, hscheme, hauthority, hbare, hsteps⟩ := parseBase_of_parse h hweb
  have hweb' : base.isWeb = true := by
    rw [← hweb, Url.isWeb, Url.isWeb, hscheme]
  have hhost : base.host? = configured.host? := by
    rw [Url.host?, Url.host?, hauthority]
  have hport : base.port? = configured.port? := by
    rw [Url.port?, Url.port?, hauthority, hscheme]
  refine ⟨base, hread, hbare,
    .segments (parsePath .special ((placed base "").takeWhile (!isMark ·))),
    fun hplace hlast => ?_⟩
  obtain ⟨u, hu, huscheme, huhost, huport, hpath⟩ := exists_below_of_names hbase hweb' hplace hlast
  refine ⟨u, hu, ⟨huscheme.trans hscheme, huhost.trans hhost, huport.trans hport,
    fun hnothing hends hnames => ?_⟩,
    fun hnames => ⟨fun hnothing => ((hpath hnames).1 hnothing).1, (hpath hnames).2⟩⟩
  rw [← hsteps hnothing hends]
  exact (hpath hnames).1 (hbare.mpr hnothing)

/-- A search index whose URLs can be read needs nothing but a client. -/
theorem connect_searchIndex {url index : String} {base document : Url}
    (hbase : parseBase url = .ok base) (hdocument : below base (index ++ "/_doc") = .ok document)
    (r : Resources) :
    connect r (.searchIndex url index) = (r.client.mapError .noClient).map fun _ =>
      ⟨(SinkTarget.searchIndex url index).displayName, .searchIndex document⟩ := by
  have hread : documentUrl url index = .ok document := by
    simp only [documentUrl, hbase, bind, Except.bind]
    exact hdocument
  rw [connect, Transport.ofTarget, hread]
  cases r.client <;> rfl

/-- A custom endpoint whose URLs can be read needs nothing but a client. -/
theorem connect_customEndpoint {url : String} {base opened closed : Url}
    (hbase : parseBase url = .ok base) (hopened : connectionUrl base .opened = .ok opened)
    (hclosed : connectionUrl base .closed = .ok closed) (r : Resources) :
    connect r (.customEndpoint url) = (r.client.mapError .noClient).map fun _ =>
      ⟨(SinkTarget.customEndpoint url).displayName, .customEndpoint opened closed⟩ := by
  simp only [connect, Transport.ofTarget, hbase, Except.mapError, bind, Except.bind]
  cases r.client with
  | error cause => rfl
  | ok _ => simp only [hopened, hclosed, pure, Except.pure, Except.map]

section Kinds

variable {url : String} {configured : Url} (h : Url.parse url = .ok configured)
  (hweb : configured.isWeb = true)
include h hweb

/-- A search index can be used if there is a client, and takes all records at one place. -/
theorem exists_connect_searchIndex (index : String) :
    ∃ s document, (∀ r, connect r (.searchIndex url index) =
        (r.client.mapError .noClient).map fun _ => s) ∧
      (∀ phase, s.postUrl? phase = some document) ∧
      IsPlacedBelow url configured document [index, "_doc"] := by
  obtain ⟨base, hbase, -, common, hbelow⟩ := exists_base_of_parse h hweb
  obtain ⟨hplace, hlast⟩ := documentPlace_spec index
  obtain ⟨document, hdocument, hplaced, -⟩ := hbelow hplace hlast
  exact ⟨_, document, connect_searchIndex hbase hdocument, fun _ => rfl, hplaced⟩

/-- A custom endpoint can be used if there is a client, and takes the records of the two phases at
different paths if and only if nothing follows the path in its URL. -/
theorem exists_connect_customEndpoint :
    ∃ s opened closed, (∀ r, connect r (.customEndpoint url) =
        (r.client.mapError .noClient).map fun _ => s) ∧
      (∀ phase, s.postUrl? phase = some (route opened closed phase) ∧
        IsPlacedBelow url configured (route opened closed phase) ["connections", phase.name]) ∧
      (opened.path ≠ closed.path ↔ configured.IsBare) := by
  obtain ⟨base, hbase, hbare, common, hbelow⟩ := exists_base_of_parse h hweb
  obtain ⟨hplace, hlast, hverbatim, hencode⟩ := connectionPlace_spec .opened
  obtain ⟨hplace', hlast', hverbatim', hencode'⟩ := connectionPlace_spec .closed
  obtain ⟨opened, hopened, hopenedAt, hopenedPath⟩ := hbelow hplace hlast
  obtain ⟨closed, hclosed, hclosedAt, hclosedPath⟩ := hbelow hplace' hlast'
  have hopenedPath := hopenedPath hverbatim
  have hclosedPath := hclosedPath hverbatim'
  refine ⟨_, opened, closed, connect_customEndpoint hbase hopened hclosed,
    fun phase => ⟨rfl, ?_⟩, ?_⟩
  · cases phase with
    | opened => exact hopenedAt
    | closed => exact hclosedAt
  · rw [← hbare]
    constructor
    · intro hne
      by_contra hsomething
      -- both places stand behind the path
      exact hne ((hopenedPath.2 hsomething).trans (hclosedPath.2 hsomething).symm)
    · intro hnothing heq
      -- the paths would be told apart by their last names
      rw [hopenedPath.1 hnothing, hclosedPath.1 hnothing, hencode, hencode'] at heq
      have hnames := List.append_cancel_left (Url.Path.segments.inj heq)
      exact absurd hnames (by decide)

end Kinds

/-- A target that is a service and makes sense can be used: its URLs can be read, and if it fails
then for want of a client. Its records are posted to the scheme, the host and the port of its URL,
and below the path of this URL, if nothing follows the path there, no blank stands in front of
slashes at the end, and the name of the index stands for itself. A custom endpoint gets the records
of the two phases at different paths if and only if nothing follows the path in its URL. -/
theorem exists_postUrl?_of_check {t : SinkTarget} (hcheck : t.check = .ok ()) {url : String}
    (hurl : url ∈ t.url?) :
    ∃ configured s, Url.parse url = .ok configured ∧
      (∀ r, connect r t = (r.client.mapError .noClient).map fun _ => s) ∧
      (∀ phase, ∃ u, s.postUrl? phase = some u ∧
        IsPlacedBelow url configured u (t.placeNames phase)) ∧
      (t = .customEndpoint url →
        ((s.postUrl? .opened).map Url.path ≠ (s.postUrl? .closed).map Url.path ↔
          configured.IsBare)) := by
  obtain ⟨configured, hparse, hweb⟩ := SinkTarget.parse_of_check hcheck hurl
  cases t with
  | syslogLocal | syslogTcp | syslogUdp => cases hurl
  | searchIndex url' index =>
    obtain rfl := Option.some.inj hurl
    obtain ⟨s, document, hs, hpost, hplaced⟩ := exists_connect_searchIndex hparse hweb index
    exact ⟨configured, s, hparse, hs, fun phase => ⟨document, hpost phase, hplaced⟩, nofun⟩
  | customEndpoint url' =>
    obtain rfl := Option.some.inj hurl
    obtain ⟨s, opened, closed, hs, hpost, hpaths⟩ := exists_connect_customEndpoint hparse hweb
    refine ⟨configured, s, hparse, hs, fun phase => ⟨_, hpost phase⟩, fun _ => ?_⟩
    rw [(hpost .opened).1, (hpost .closed).1, ← hpaths]
    exact not_congr Option.some_inj

/-- The URL of a service below a path, with more slashes than one at its end. -/
def collector : String :=
  "https://collector.example:8443/in//"

/-- A search index below a path, and a custom endpoint there, whose phases are kept apart. -/
theorem postUrl?_below_in :
    (∃ s, connect (.ample default) (.searchIndex collector "flows 2024") = .ok s ∧
      ∀ phase, (s.postUrl? phase).map Url.path =
        some (.segments ["in", "flows%202024", "_doc"])) ∧
    ∃ s, connect (.ample default) (.customEndpoint collector) = .ok s ∧
      (s.postUrl? .opened).map Url.path ≠ (s.postUrl? .closed).map Url.path := by
  have hread : (Url.parse collector).toOption.map
      (fun u => (u.query, u.fragment, u.steps)) = some (none, none, ["in"]) := by
    decide +kernel
  have hconfigured {configured : Url}
      (h : Url.parse collector = .ok configured) :
      configured.IsBare ∧ configured.steps = ["in"] := by
    rw [h] at hread
    obtain ⟨hquery, hfragment, hsteps⟩ := by simpa using Option.some.inj hread
    exact ⟨⟨hquery, hfragment⟩, hsteps⟩
  constructor
  · obtain ⟨configured, s, hparse, hs, hplaces, -⟩ := exists_postUrl?_of_check
      (t := .searchIndex collector "flows 2024")
      (by decide +kernel) (Option.mem_some_self _)
    obtain ⟨hbare, hsteps⟩ := hconfigured hparse
    refine ⟨s, hs (.ample default), fun phase => ?_⟩
    obtain ⟨u, hu, hplaced⟩ := hplaces phase
    have hnames : ∀ name ∈ ["flows 2024", "_doc"], IsVerbatim name := by
      rw [List.forall_mem_cons, List.forall_mem_singleton]
      exact ⟨⟨by decide, by decide, List.forall_iff_forall_mem.mp (by decide)⟩,
        ⟨by decide, by decide, List.forall_iff_forall_mem.mp (by decide)⟩⟩
    have hends : EndsPlainly collector := .inr fun c hc => by
      obtain rfl : 'n' = c := Option.some.inj hc
      decide
    have hpath : u.path = .segments (configured.steps ++ ["flows 2024", "_doc"].map encodeName) :=
      (hplaced.path hbare hends hnames).1
    have hencode : ["flows 2024", "_doc"].map encodeName = ["flows%202024", "_doc"] := by
      decide +kernel
    rw [hu, Option.map_some, hpath, hsteps, hencode]
    rfl
  · obtain ⟨configured, s, hparse, hs, -, hpaths⟩ := exists_postUrl?_of_check
      (t := .customEndpoint collector)
      (by decide +kernel) (Option.mem_some_self _)
    exact ⟨s, hs (.ample default), (hpaths rfl).mpr (hconfigured hparse).1⟩

/-- A query in its URL makes a custom endpoint take the records of both phases at the same path, and
a question mark in its name takes a search index out of its place. -/
theorem postUrl?_of_question :
    ((SinkTarget.customEndpoint "http://10.0.0.5/x?y=1").check = .ok () ∧
      (connect (.ample default) (.customEndpoint "http://10.0.0.5/x?y=1")).toOption.map
          (fun s => ((s.postUrl? .opened).map Url.path, (s.postUrl? .closed).map Url.path)) =
        some (some (.segments ["x"]), some (.segments ["x"]))) ∧
    (SinkTarget.searchIndex "http://10.0.0.5" "a?b").check = .ok () ∧
      (connect (.ample default) (.searchIndex "http://10.0.0.5" "a?b")).toOption.map
          (fun s => (s.postUrl? .opened).map Url.path) =
        some (some (.segments ["a"])) := by
  decide +kernel

end Sink

end FlowAudit
