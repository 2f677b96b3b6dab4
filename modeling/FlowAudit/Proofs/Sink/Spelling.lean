import FlowAudit.Proofs.Configuration.Validity
import FlowAudit.Proofs.Sink.Service
import FlowAudit.Proofs.Url.Render

/-!
# Services that are written in several ways

The check of a configuration compares the texts of its sinks, while a sink posts below the URL that
its text is read as. The normal form of a target (`SinkTarget.normal`) is what is left of its text
then: the URL as it is written again, without slashes at its end, and the name of the index as it is
encoded there. A target posts to `{url}/{index}/_doc`, or `{url}/connections/{phase}`, of its normal
form (`Sink.exists_connect_of_isSound`), so two of them post to the same place if and only if their
normal forms are the same (`Sink.postUrl?_eq_iff_normal`). Such targets pass the check if they are
spelled in two ways (`Sink.postUrl?_of_respelled`).
-/

namespace FlowAudit

namespace Url

/-! ### What is put behind a URL -/

/-- What has to be encoded behind the text of a URL, where the last of its parts goes on. -/
def endSet (u : Url) : Char → Bool :=
  if u.fragment.isSome then inFragment else if u.query.isSome then inQuery true else inPath

theorem endSet_of_fragment {u : Url} {f : String} (h : u.fragment = some f) :
    u.endSet = inFragment := by
  rw [endSet, h]
  rfl

theorem endSet_of_query {u : Url} {q : String} (hfragment : u.fragment = none)
    (h : u.query = some q) : u.endSet = inQuery true := by
  rw [endSet, hfragment, h]
  rfl

theorem endSet_of_isBare {u : Url} (h : u.IsBare) : u.endSet = inPath := by
  rw [endSet, h.2, h.1]
  rfl

/-- What is encoded in no part of a URL is not encoded at the end. -/
theorem encode_endSet {u : Url} {s : List Char}
    (h : s.Forall fun c => inFragment c = false ∧ inQuery true c = false ∧ inPath c = false) :
    encode u.endSet s = s := by
  refine encode_of_forall fun c hc => ?_
  obtain ⟨hfragment, hquery, hpath⟩ := List.forall_iff_forall_mem.mp h c hc
  rw [endSet]
  split
  · exact hfragment
  · split
    · exact hquery
    · exact hpath

theorem encode_append (set : Char → Bool) (s t : List Char) :
    encode set (s ++ t) = encode set s ++ encode set t :=
  List.flatMap_append

theorem encode_slash {set : Char → Bool} (hslash : set '/' = false) (s : List Char) :
    encode set ('/' :: s) = '/' :: encode set s := by
  rw [encode, List.flatMap_cons, encodeChar, hslash]
  rfl

theorem encode_slashed {set : Char → Bool} (hslash : set '/' = false)
    (segments : List (List Char)) :
    encode set (slashed segments) = slashed (segments.map (encode set)) := by
  induction segments with
  | nil => rfl
  | cons s segments ih =>
    have hcons (s : List Char) (segments : List (List Char)) :
        slashed (s :: segments) = '/' :: s ++ slashed segments := rfl
    rw [hcons, encode_append, encode_slash hslash, ih, List.map_cons, hcons]

/-- What was encoded already stays so in front of what is put behind it. -/
theorem encode_rdropWhile_append {set : Char → Bool} (hslash : set '/' = false)
    (hset : encodingChars.Forall (set · = false)) {s : List Char} (hs : encode set s = s)
    (place : List Char) :
    encode set (s.rdropWhile (· = '/') ++ '/' :: place) =
      s.rdropWhile (· = '/') ++ '/' :: encode set place := by
  have hdropped : encode set (s.rdropWhile (· = '/')) = s.rdropWhile (· = '/') := by
    refine encode_of_forall fun c hc => ?_
    have hmem : c ∈ encode set s := by
      rw [hs]
      exact (List.rdropWhile_prefix _ _).subset hc
    exact not_set_of_mem_encode hset hmem
  rw [encode_append, hdropped, encode_slash hslash]

/-- A name that stands for itself holds no slash, however it is encoded. -/
theorem IsVerbatim.notMem_encode {name : String} (h : IsVerbatim name) (set : Char → Bool) :
    '/' ∉ encode set name.toList := by
  intro hmem
  rcases mem_encode hmem with ⟨hname, -⟩ | hchar
  · exact absurd (of_isPlain (h.isPlain '/' hname)).1 (by decide)
  · exact absurd hchar (by decide)

end Url

namespace Sink

open Url (IsVerbatim encode encodeName endSet inFragment inPath inQuery isMark isPadding marked
  parsePath slashed)

/-- What is put behind a URL is read as a path, a query and a fragment. Written again, it is what was
there before and the place as it is encoded at its end. -/
structure IsPlacedAs (base : Url) (place : String) (path : List Char)
    (query fragment : Option (List Char)) : Prop where
  text : placed base place = path ++ (marked '?' query ++ marked '#' fragment)
  head : path.head? = some '/'
  marks : ∀ c ∈ path, isMark c = false
  notMem_query : ∀ q ∈ query, '#' ∉ q
  written : slashed ((parsePath .special path).map String.toList) ++
      (marked '?' (query.map (encode (inQuery true))) ++
        marked '#' (fragment.map (encode inFragment))) =
    base.behindAuthority.toList.rdropWhile (· = '/') ++ '/' :: encode base.endSet place.toList

section Below

variable {base : Url} {place : String} {names : List String} (hbase : base.IsNormal)
  (hplace : '/' :: place.toList = slashed (names.map String.toList))
  (hnames : ∀ name ∈ names, IsVerbatim name)
include hbase

/-- A fragment takes in what is put behind it. -/
theorem exists_isPlacedAs_of_fragment {f : String} (hfragment : base.fragment = some f)
    (place : String) : ∃ path query fragment, IsPlacedAs base place path query fragment := by
  obtain ⟨segments, hpath, hslash, hmarks, hread, hbehind⟩ := hbase.exists_parts
  have hdrop : base.behindAuthority.toList.rdropWhile (· = '/') =
      slashed (segments.map String.toList) ++ (marked '?' (base.query.map String.toList) ++
        '#' :: f.toList.rdropWhile (· = '/')) := by
    rw [hbehind, hfragment, Option.map_some, marked, ← List.append_assoc,
      Url.rdropWhile_append_cons (by decide), List.append_assoc]
  have hquery : (base.query.map String.toList).map (encode (inQuery true)) =
      base.query.map String.toList := by
    cases hsome : base.query with
    | none => rfl
    | some q => exact congrArg some (hbase.encode_query q hsome)
  refine ⟨_, base.query.map String.toList,
    some (f.toList.rdropWhile (· = '/') ++ '/' :: place.toList), ?_, hslash, hmarks,
    fun q hq => ?_, ?_⟩
  · rw [placed, hdrop, marked]
    simp
  · obtain ⟨text, htext, rfl⟩ := Option.map_eq_some_iff.mp hq
    exact hbase.notMem_query text htext
  · rw [hread, hquery, hdrop, Url.endSet_of_fragment hfragment, Option.map_some,
      Url.encode_rdropWhile_append (by decide) (by decide) (hbase.encode_fragment f hfragment),
      marked]
    simp

include hplace hnames

/-- So does a query without a fragment behind it. -/
theorem exists_isPlacedAs_of_query {q : String} (hfragment : base.fragment = none)
    (hquery : base.query = some q) :
    ∃ path query fragment, IsPlacedAs base place path query fragment := by
  obtain ⟨segments, hpath, hslash, hmarks, hread, hbehind⟩ := hbase.exists_parts
  have hdrop : base.behindAuthority.toList.rdropWhile (· = '/') =
      slashed (segments.map String.toList) ++ '?' :: q.toList.rdropWhile (· = '/') := by
    rw [hbehind, hfragment, hquery, Option.map_some, Option.map_none, marked, marked,
      List.append_nil, Url.rdropWhile_append_cons (by decide)]
  have hplain : ∀ c ∈ slashed (names.map String.toList), isMark c = false :=
    Url.of_mem_slashed (by decide) fun s hs c hc => by
      obtain ⟨name, hname, rfl⟩ := List.mem_map.mp hs
      exact (Url.of_isPlain ((hnames name hname).isPlain c hc)).2.1
  refine ⟨_, some (q.toList.rdropWhile (· = '/') ++ '/' :: place.toList), none, ?_, hslash,
    hmarks, fun q' hq' => ?_, ?_⟩
  · rw [placed, hdrop, marked, marked]
    simp
  · obtain rfl := Option.some.inj hq'
    rw [hplace, List.mem_append, not_or]
    refine ⟨fun hmem => hbase.notMem_query q hquery ?_, fun hmem => ?_⟩
    · exact (List.rdropWhile_prefix _ _).subset hmem
    · exact absurd (hplain '#' hmem) (by decide)
  · rw [hread, hdrop, Url.endSet_of_query hfragment hquery, Option.map_some, Option.map_none,
      Url.encode_rdropWhile_append (by decide) (by decide) (hbase.encode_query q hquery),
      marked, marked]
    simp

/-- A path goes on with the names of the place. -/
theorem exists_isPlacedAs_of_isBare (hbare : base.IsBare) :
    ∃ path query fragment, IsPlacedAs base place path query fragment := by
  obtain ⟨hsteps, hall⟩ := parsePath_placed hbase.isEncoded hbare hplace hnames
  rw [Url.takeWhile_of_notMark hall] at hsteps
  refine ⟨_, none, none, (List.append_nil _).symm, ?_, hall,
    fun _ hq => absurd hq (Option.not_mem_none _), ?_⟩
  · rw [placed, Url.rdropWhile_behindAuthority hbase.isEncoded hbare]
    cases base.steps <;> rfl
  · rw [hsteps, Url.rdropWhile_behindAuthority hbase.isEncoded hbare, Url.endSet_of_isBare hbare,
      ← Url.encode_slash (by decide), hplace, Url.encode_slashed (by decide)]
    simp [slashed, marked, encodeName, Function.comp_def, List.flatMap_map]

theorem exists_isPlacedAs : ∃ path query fragment, IsPlacedAs base place path query fragment := by
  cases hfragment : base.fragment with
  | some f => exact exists_isPlacedAs_of_fragment hbase hfragment place
  | none =>
    cases hquery : base.query with
    | some q => exact exists_isPlacedAs_of_query hbase hplace hnames hfragment hquery
    | none => exact exists_isPlacedAs_of_isBare hbase hplace hnames ⟨hquery, hfragment⟩

/-- What is asked for below a service is at the URL that is written as its own, without slashes at
its end, and the place as it is encoded there. -/
theorem exists_below_of_isNormal (hlast : ∀ c ∈ place.toList.getLast?, isPadding c = false) :
    ∃ u, below base place = .ok u ∧ u.IsNormal ∧ u.render.toList =
      (trimSlashes base.render).toList ++ '/' :: encode base.endSet place.toList := by
  obtain ⟨a, hauthority, ha⟩ := hbase.authority
  obtain ⟨host, hhost, hstable⟩ := ha.host
  have hbelow := toList_trimSlashes_append hauthority hhost hstable ha.isPlain_renderUser place
  have htrim := toList_trimSlashes_render hauthority hhost hstable ha.isPlain_renderUser
  have hend := isKeptEnd_placed hbase.isEncoded (isPlace_of_isVerbatim hplace hlast hnames)
  obtain ⟨path, query, fragment, hparts⟩ := exists_isPlacedAs hbase hplace hnames
  rw [hparts.text] at hbelow hend
  have hread := Url.parse_marked hbase.scheme ha hparts.head hparts.marks hparts.notMem_query hend
    hbelow
  generalize hu : (Url.mk base.scheme (some a) (.segments (parsePath .special path))
    (query.map fun q => String.ofList (encode (inQuery true) q))
    (fragment.map fun f => String.ofList (encode inFragment f))) = u at hread
  have hbehind : u.behindAuthority.toList =
      base.behindAuthority.toList.rdropWhile (· = '/') ++ '/' :: encode base.endSet place.toList := by
    have hpart (mark : Char) (set : Char → Bool) (part : Option (List Char)) :
        (Url.renderPart (String.singleton mark)
          (part.map fun s => String.ofList (encode set s))).toList =
            marked mark (part.map (encode set)) := by
      rw [Url.toList_renderPart, Option.map_map]
      cases part <;> simp
    rw [← hparts.written, ← hu, Url.toList_behindAuthority rfl, ← hpart, ← hpart]
    rfl
  refine ⟨u, by rw [below, hread], Url.isNormal_of_parse hread (Url.isWeb_iff.mpr ?_), ?_⟩
  · rw [← hu]
    exact hbase.scheme
  · have hsame : u.authority = some a := by rw [← hu]
    rw [Url.render_of_authority hsame, hbehind, htrim, ← hu]
    simp

end Below

theorem exists_parseBase {url : String} (h : SinkTarget.IsWebUrl url) :
    ∃ base, parseBase url = .ok base ∧ base.IsNormal := by
  obtain ⟨u, -, hparse, hscheme, -⟩ := h
  have hweb : u.isWeb = true := Url.isWeb_iff.mpr hscheme
  obtain ⟨base, hbase, hread, hsame, -⟩ := parseBase_of_parse hparse hweb
  have hweb' : base.isWeb = true := by
    rw [← hweb, Url.isWeb, Url.isWeb, hsame]
  exact ⟨base, hread, Url.isNormal_of_parse hbase hweb'⟩

end Sink

/-! ### Normal forms -/

namespace SinkTarget

open Sink (parseBase trimSlashes)

/-- What is left of the spelling of a target when it is used. -/
def normal (t : SinkTarget) : SinkTarget :=
  match t with
  | .searchIndex url index => (parseBase url).toOption.elim t fun base =>
    .searchIndex (trimSlashes base.render) (String.ofList (Url.encode base.endSet index.toList))
  | .customEndpoint url => (parseBase url).toOption.elim t fun base =>
    .customEndpoint (trimSlashes base.render)
  | _ => t

theorem normal_searchIndex {url : String} {base : Url} (h : parseBase url = .ok base)
    (index : String) : (SinkTarget.searchIndex url index).normal =
      .searchIndex (trimSlashes base.render)
        (String.ofList (Url.encode base.endSet index.toList)) := by
  rw [normal, h]
  rfl

theorem normal_customEndpoint {url : String} {base : Url} (h : parseBase url = .ok base) :
    (SinkTarget.customEndpoint url).normal = .customEndpoint (trimSlashes base.render) := by
  rw [normal, h]
  rfl

/-- The text of the URL that a service is documented to take records at, by its phase. -/
def postText : SinkTarget → Phase → String
  | .searchIndex url index, _ => url ++ "/" ++ index ++ "/_doc"
  | .customEndpoint url, phase => url ++ "/connections/" ++ phase.name
  | .syslogLocal _, _ | .syslogTcp _, _ | .syslogUdp _, _ => ""

/-- Whether the name of an index, if there is one, stands for itself. -/
def NamesIndex : SinkTarget → Prop
  | .searchIndex _ index => Url.IsVerbatim index
  | _ => True

/-- Whether the name of an index, if there is one, holds no slash. -/
def KeepsIndex : SinkTarget → Prop
  | .searchIndex _ index => '/' ∉ index.toList
  | _ => True

/-- A target of a known kind is told by where it takes records, if it keeps its index apart. -/
theorem postText_inj {s t : SinkTarget} (hs : s.KeepsIndex) (ht : t.KeepsIndex)
    (hkind : s.kind = t.kind) (hservice : s.url? ≠ none) (phase : Phase) :
    s.postText phase = t.postText phase ↔ s = t := by
  refine ⟨fun h => ?_, congrArg (postText · phase)⟩
  cases s with
  | syslogLocal | syslogTcp | syslogUdp => exact absurd rfl hservice
  | searchIndex url index =>
    cases t with
    | searchIndex url' index' =>
      have htext : url.toList ++ '/' :: index.toList ++ "/_doc".toList =
          url'.toList ++ '/' :: index'.toList ++ "/_doc".toList := by
        simpa [postText] using congrArg String.toList h
      rw [List.append_cancel_right_eq, Text.append_cons_inj_of_back hs ht, String.toList_inj,
        String.toList_inj] at htext
      rw [htext.1, htext.2]
    | _ => cases hkind
  | customEndpoint url =>
    cases t with
    | customEndpoint url' =>
      have htext : url.toList = url'.toList := by
        simpa [postText] using congrArg String.toList h
      rw [String.toList_inj.mp htext]
    | _ => cases hkind

theorem keepsIndex_normal {t : SinkTarget} (h : t.NamesIndex) : t.normal.KeepsIndex := by
  cases t with
  | syslogLocal | syslogTcp | syslogUdp => trivial
  | searchIndex url index =>
    have hindex : '/' ∉ index.toList := fun hmem =>
      absurd (Url.of_isPlain (h.isPlain '/' hmem)).1 (by decide)
    rw [normal]
    cases (parseBase url).toOption with
    | none => exact hindex
    | some base =>
      rw [Option.elim_some, KeepsIndex, String.toList_ofList]
      exact Url.IsVerbatim.notMem_encode h _
  | customEndpoint url =>
    rw [normal]
    cases (parseBase url).toOption <;> trivial

/-- A target is a service by its kind. -/
theorem url?_ne_none_iff {t : SinkTarget} :
    t.url? ≠ none ↔ t.kind = .searchIndex ∨ t.kind = .customEndpoint := by
  cases t <;> simp [url?, kind]

theorem kind_normal (t : SinkTarget) : t.normal.kind = t.kind := by
  cases t with
  | syslogLocal | syslogTcp | syslogUdp => rfl
  | searchIndex url index =>
    rw [normal]
    cases (parseBase url).toOption with
    | none => rfl
    | some base => simp only [Option.elim_some, kind]
  | customEndpoint url =>
    rw [normal]
    cases (parseBase url).toOption with
    | none => rfl
    | some base => simp only [Option.elim_some, kind]

end SinkTarget

/-! ### Where services post -/

namespace Sink

open Url (encode)

theorem exists_documentUrl {url index : String} (hurl : SinkTarget.IsWebUrl url)
    (hindex : Url.IsVerbatim index) :
    ∃ base u, parseBase url = .ok base ∧ below base (index ++ "/_doc") = .ok u ∧ u.IsNormal ∧
      ∀ phase, u.render = (SinkTarget.searchIndex url index).normal.postText phase := by
  obtain ⟨base, hread, hbase⟩ := exists_parseBase hurl
  obtain ⟨hplace, hlast⟩ := documentPlace_spec index
  have hnames : ∀ name ∈ [index, "_doc"], Url.IsVerbatim name := by
    rw [List.forall_mem_cons, List.forall_mem_singleton]
    exact ⟨hindex, ⟨by decide, by decide, List.forall_iff_forall_mem.mp (by decide)⟩⟩
  obtain ⟨u, hu, hnormal, hrender⟩ := exists_below_of_isNormal hbase hplace hnames hlast
  refine ⟨base, u, hread, hu, hnormal, fun phase => ?_⟩
  have hdoc : encode base.endSet "/_doc".toList = "/_doc".toList :=
    Url.encode_endSet (by decide)
  rw [String.toList_append, Url.encode_append, hdoc] at hrender
  rw [← String.toList_inj, hrender, SinkTarget.normal_searchIndex hread]
  simp [SinkTarget.postText]

theorem exists_connectionUrl {url : String} (hurl : SinkTarget.IsWebUrl url) :
    ∃ base, parseBase url = .ok base ∧ ∀ phase, ∃ u, connectionUrl base phase = .ok u ∧
      u.IsNormal ∧ u.render = (SinkTarget.customEndpoint url).normal.postText phase := by
  obtain ⟨base, hread, hbase⟩ := exists_parseBase hurl
  refine ⟨base, hread, fun phase => ?_⟩
  obtain ⟨hplace, hlast, hnames, -⟩ := connectionPlace_spec phase
  obtain ⟨u, hu, hnormal, hrender⟩ := exists_below_of_isNormal hbase hplace hnames hlast
  have hplain : encode base.endSet ("connections/" ++ phase.name).toList =
      ("connections/" ++ phase.name).toList := by
    cases phase <;> exact Url.encode_endSet (by decide)
  refine ⟨u, hu, hnormal, ?_⟩
  rw [← String.toList_inj, hrender, hplain, SinkTarget.normal_customEndpoint hread]
  simp [SinkTarget.postText]

/-- A service posts where its normal form says. -/
theorem exists_connect_of_isSound {t : SinkTarget} (hsound : t.IsSound) (hservice : t.url? ≠ none)
    (hindex : t.NamesIndex) :
    ∃ s, (∀ r, connect r t = (r.client.mapError .noClient).map fun _ => s) ∧
      ∀ phase, ∃ u, s.postUrl? phase = some u ∧ u.IsNormal ∧
        u.render = t.normal.postText phase := by
  cases t with
  | syslogLocal | syslogTcp | syslogUdp => exact absurd rfl hservice
  | searchIndex url index =>
    obtain ⟨hurl, -⟩ := hsound
    obtain ⟨base, u, hread, hdocument, hnormal, htext⟩ := exists_documentUrl hurl hindex
    exact ⟨_, connect_searchIndex hread hdocument, fun phase => ⟨u, rfl, hnormal, htext phase⟩⟩
  | customEndpoint url =>
    obtain ⟨base, hread, hconnections⟩ := exists_connectionUrl hsound
    obtain ⟨opened, hopened, hopenedAt⟩ := hconnections .opened
    obtain ⟨closed, hclosed, hclosedAt⟩ := hconnections .closed
    refine ⟨_, connect_customEndpoint hread hopened hclosed, fun phase => ?_⟩
    cases phase with
    | opened => exact ⟨opened, rfl, hopenedAt⟩
    | closed => exact ⟨closed, rfl, hclosedAt⟩

/-- Two services of one kind in an accepted configuration post to the same place if and only if they
have the same normal form. They do not if they are written in it. -/
theorem postUrl?_eq_iff_normal {c : Configuration} (hcheck : c.check = .ok ()) {i j : Nat}
    (hij : i ≠ j) {s t : SinkTarget} (hs : c.sinks[i]? = some s) (ht : c.sinks[j]? = some t)
    (hkind : s.kind = t.kind) (hservice : s.url? ≠ none) (hsIndex : s.NamesIndex)
    (htIndex : t.NamesIndex) :
    ∃ a b, (∀ r, connect r s = (r.client.mapError .noClient).map fun _ => a) ∧
      (∀ r, connect r t = (r.client.mapError .noClient).map fun _ => b) ∧
      ∀ phase, ∃ u v, a.postUrl? phase = some u ∧ b.postUrl? phase = some v ∧
        (u = v ↔ s.normal = t.normal) ∧ (s.normal = s → t.normal = t → u ≠ v) := by
  have hsound : c.IsSound := c.check_decides.ok_iff.mp hcheck
  have htService : t.url? ≠ none := by
    rwa [SinkTarget.url?_ne_none_iff, ← hkind, ← SinkTarget.url?_ne_none_iff]
  obtain ⟨a, ha, hposts⟩ := exists_connect_of_isSound
    (hsound.sinks.each s (List.mem_of_getElem? hs)) hservice hsIndex
  obtain ⟨b, hb, hposts'⟩ := exists_connect_of_isSound
    (hsound.sinks.each t (List.mem_of_getElem? ht)) htService htIndex
  refine ⟨a, b, ha, hb, fun phase => ?_⟩
  obtain ⟨u, hu, hunormal, hutext⟩ := hposts phase
  obtain ⟨v, hv, hvnormal, hvtext⟩ := hposts' phase
  have hsame : u = v ↔ s.normal = t.normal := by
    have hkinds : s.normal.kind = t.normal.kind := by
      rw [SinkTarget.kind_normal, SinkTarget.kind_normal, hkind]
    have hnormal : s.normal.url? ≠ none := by
      rwa [SinkTarget.url?_ne_none_iff, SinkTarget.kind_normal, ← SinkTarget.url?_ne_none_iff]
    rw [← hunormal.render_inj hvnormal, hutext, hvtext]
    exact SinkTarget.postText_inj (SinkTarget.keepsIndex_normal hsIndex)
      (SinkTarget.keepsIndex_normal htIndex) hkinds hnormal phase
  refine ⟨u, v, hu, hv, hsame, fun hsNormal htNormal heq => ?_⟩
  -- the check would have refused the second one
  have hst : s = t := by
    rw [← hsNormal, hsame.mp heq, htNormal]
  have hdistinct := hsound.sinks.distinct i j s t hs ht hij
  rw [hst, SinkTarget.same_self] at hdistinct
  cases hdistinct

/-- A server that is spelled in two ways, for two of its indexes. -/
def neighbours : Configuration where
  sinks := [.searchIndex "HTTP://Es.example:80/in//" "flows",
    .searchIndex "http://es.example/in" "logs"]

/-- The indexes are kept apart. -/
theorem postUrl?_of_neighbours :
    ∃ a b, connect (.ample default) (.searchIndex "HTTP://Es.example:80/in//" "flows") = .ok a ∧
      connect (.ample default) (.searchIndex "http://es.example/in" "logs") = .ok b ∧
      ∀ phase, a.postUrl? phase ≠ b.postUrl? phase := by
  have hflows : Url.IsVerbatim "flows" :=
    ⟨by decide, by decide, List.forall_iff_forall_mem.mp (by decide)⟩
  have hlogs : Url.IsVerbatim "logs" :=
    ⟨by decide, by decide, List.forall_iff_forall_mem.mp (by decide)⟩
  obtain ⟨a, b, ha, hb, hposts⟩ := postUrl?_eq_iff_normal (c := neighbours) (i := 0) (j := 1)
    (by decide +kernel) (by decide) rfl rfl rfl (Option.some_ne_none _) hflows hlogs
  refine ⟨a, b, ha (.ample default), hb (.ample default), fun phase => ?_⟩
  obtain ⟨u, v, hu, hv, hsame, -⟩ := hposts phase
  rw [hu, hv, Option.some_inj.ne, Ne, hsame]
  decide +kernel

/-- A search index and a custom endpoint, each of them in two spellings. -/
def respelled : Configuration where
  sinks := [.searchIndex "http://10.0.0.5:9200" "net", .searchIndex "http://10.0.0.5:9200/" "net",
    .customEndpoint "http://collector.example/in",
    .customEndpoint "HTTP://Collector.example:80/in//"]

/-- A target that is spelled in two ways is accepted twice, and all records are posted twice to the
same place. -/
theorem postUrl?_of_respelled :
    respelled.check = .ok () ∧
      respelled.sinks.map (fun t => (connect (.ample default) t).toOption.map fun s =>
          ((s.postUrl? .opened).map Url.render, (s.postUrl? .closed).map Url.render)) =
        [some (some "http://10.0.0.5:9200/net/_doc", some "http://10.0.0.5:9200/net/_doc"),
          some (some "http://10.0.0.5:9200/net/_doc", some "http://10.0.0.5:9200/net/_doc"),
          some (some "http://collector.example/in/connections/open",
            some "http://collector.example/in/connections/close"),
          some (some "http://collector.example/in/connections/open",
            some "http://collector.example/in/connections/close")] := by
  decide +kernel

end Sink

end FlowAudit
