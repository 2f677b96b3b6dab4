import FlowAudit.Proofs.Url.Written
import FlowAudit.Sink.Http

/-!
# Where web services are

Slashes at the end of the URL of a service make no difference for where it is
(`Sink.parseBase_of_parse`), and what is asked for below a service is at the same host and port,
whatever it is (`Sink.below_of_parse`).
-/

namespace FlowAudit.Sink

open Url (endsAuthority isKept isMark isPadding parsePath)

/-! ### Slashes at the end -/

theorem toList_trimSlashes (text : String) :
    (trimSlashes text).toList = text.toList.rdropWhile (· = '/') := by
  rw [trimSlashes, String.toList_ofList, List.rdropWhile]

/-- Whether no blank stands in front of slashes at the end of a text. -/
def EndsPlainly (text : String) : Prop :=
  trimSlashes text = text ∨ ∀ c ∈ (trimSlashes text).toList.getLast?, isPadding c = false

/-- Slashes at the end of the URL of a service make no difference for where it is. They make none
for its path, if no blank stands in front of them. -/
theorem parseBase_of_parse {text : String} {u : Url} (h : Url.parse text = .ok u)
    (hweb : u.isWeb = true) :
    ∃ base, Url.parse (trimSlashes text) = .ok base ∧ parseBase text = .ok base ∧
      base.scheme = u.scheme ∧ base.authority = u.authority ∧ (base.IsBare ↔ u.IsBare) ∧
      (u.IsBare → EndsPlainly text → base.steps = u.steps) := by
  obtain ⟨back, hback, htext⟩ := Url.exists_rdropWhile (· = '/') text.toList
  have hslashes : back = List.replicate back.length '/' :=
    List.eq_replicate_iff.mpr ⟨rfl, fun c hc => by simpa using hback c hc⟩
  rw [← toList_trimSlashes, hslashes] at htext
  obtain ⟨base, hbase, hscheme, hauthority, hbare, -, hpath⟩ :=
    Url.parse_of_append_slashes htext h hweb
  refine ⟨base, hbase, by rw [parseBase, hbase], hscheme, hauthority, hbare, fun hu hends => ?_⟩
  rcases hends with hsame | hlast
  · rw [hsame, h] at hbase
    rw [Except.ok.inj hbase]
  · obtain ⟨path, hu', hbase'⟩ := hpath hu hlast
    rw [Url.steps, Url.steps, hu', hbase']
    exact (Url.parsePath_append_slashes path _).symm

/-! ### Below a service -/

/-- What is put behind a URL without slashes at its end. -/
def placed (base : Url) (place : String) : List Char :=
  base.behindAuthority.toList.rdropWhile (· = '/') ++ '/' :: place.toList

section Trim

variable {u : Url} {a : Url.Authority} {host : Url.Host} (hauthority : u.authority = some a)
  (ha : a.host = some host) (hhost : host.IsStable)
  (huser : ∀ c ∈ a.renderUser.toList, Url.isPlain c = true)
include hauthority ha hhost huser

/-- The slashes that are dropped at the end of a URL with a host stand behind its authority. -/
theorem toList_trimSlashes_render :
    (trimSlashes u.render).toList = u.scheme.toList ++ ':' :: '/' :: '/' ::
      (a.render.toList ++ u.behindAuthority.toList.rdropWhile (· = '/')) := by
  have hplain := Url.isPlain_of_mem_render ha hhost huser
  obtain hnil | ⟨front, e, hlast⟩ := List.eq_nil_or_concat a.render.toList
  · rw [Url.render_eq ha] at hnil
    simp [Url.Host.render_ne_nil_of_isStable hhost] at hnil
  · have he : decide (e = '/') = false := by
      rw [decide_eq_false_iff_not]
      rintro rfl
      exact absurd (hplain '/' (by simp [hlast])) (by decide)
    have hdrop := @Url.rdropWhile_append_cons _ (fun c => decide (c = '/')) e he
      (u.scheme.toList ++ ':' :: '/' :: '/' :: front) u.behindAuthority.toList
    rw [toList_trimSlashes, Url.render_of_authority hauthority, hlast]
    simpa using hdrop

/-- What is put behind a URL with a host stands behind its authority. -/
theorem toList_trimSlashes_append (place : String) :
    (trimSlashes u.render ++ "/" ++ place).toList =
      u.scheme.toList ++ ':' :: '/' :: '/' :: (a.render.toList ++ placed u place) := by
  rw [String.toList_append, String.toList_append,
    toList_trimSlashes_render hauthority ha hhost huser, placed]
  simp

end Trim

/-- What is put behind a URL ends its authority. -/
theorem exists_placed_eq_cons {u : Url} (hu : u.IsEncoded) (place : String) :
    ∃ d back, placed u place = d :: back ∧ endsAuthority d = true := by
  obtain ⟨names, hpath, -⟩ := hu.path
  obtain ⟨rest, hrest⟩ := List.rdropWhile_prefix (· = '/') u.behindAuthority.toList
  rw [placed]
  cases hbehind : u.behindAuthority.toList.rdropWhile (· = '/') with
  | nil => exact ⟨'/', place.toList, rfl, by decide⟩
  | cons d back =>
    rw [hbehind] at hrest
    refine ⟨d, back ++ '/' :: place.toList, rfl, ?_⟩
    exact Url.endsAuthority_of_head?_behindAuthority hpath d (by rw [← hrest]; rfl)

/-- Where something is put below a service: it counts, and so does its end. -/
def IsPlace (place : String) : Prop :=
  Url.IsKeptEnd ('/' :: place.toList)

theorem isKeptEnd_placed {u : Url} (hu : u.IsEncoded) {place : String} (hplace : IsPlace place) :
    Url.IsKeptEnd (placed u place) := by
  obtain ⟨hkept, hlast⟩ := hplace
  refine ⟨?_, ?_⟩
  · rw [placed, List.forall_mem_append]
    refine ⟨fun c hc => hu.isKept_of_mem_behindAuthority c ?_, hkept⟩
    exact (List.rdropWhile_prefix _ _).subset hc
  · rwa [placed, List.getLast?_append_of_ne_nil _ (List.cons_ne_nil _ _)]

/-- A mark is not dropped with the slashes at the end. -/
theorem isMark_rdropWhile {u : Url} (hu : u.IsEncoded) :
    (∀ c ∈ u.behindAuthority.toList.rdropWhile (· = '/'), isMark c = false) ↔ u.IsBare := by
  obtain ⟨back, hback, htext⟩ := Url.exists_rdropWhile (· = '/') u.behindAuthority.toList
  have hslashes : ∀ c ∈ back, isMark c = false := fun c hc => by
    obtain rfl : c = '/' := by simpa using hback c hc
    decide
  rw [← hu.isMark_behindAuthority]
  conv_rhs => rw [htext, List.forall_mem_append, and_iff_left hslashes]

/-- What is put behind the URL of a service is asked for at the same place. If it counts, it is the
end of the path, unless it becomes part of a query or a fragment. -/
theorem below_of_parse {text : String} {base : Url} (h : Url.parse text = .ok base)
    (hweb : base.isWeb = true) (place : String) :
    ∃ u, below base place = .ok u ∧ u.scheme = base.scheme ∧ u.host? = base.host? ∧
      u.port? = base.port? ∧ (IsPlace place →
        u.path = .segments (parsePath .special ((placed base place).takeWhile (!isMark ·))) ∧
          (u.IsBare ↔ ∀ c ∈ placed base place, isMark c = false)) := by
  obtain ⟨⟨a, host, hauthority, ha, hhost, huser⟩, hencoded⟩ := Url.exists_of_parse h hweb
  have hscheme : base.scheme = "http" ∨ base.scheme = "https" := by
    rwa [Url.isWeb, Bool.or_eq_true, decide_eq_true_eq, decide_eq_true_eq] at hweb
  have htext := toList_trimSlashes_append hauthority ha hhost huser place
  obtain ⟨d, back, hplaced, hd⟩ := exists_placed_eq_cons hencoded place
  rw [hplaced] at htext ⊢
  obtain ⟨u, hu, huscheme, ⟨a', ha', hhost', hport⟩, hpath⟩ :=
    Url.parse_of_authority hscheme ha hhost huser hd htext
  refine ⟨u, by rw [below, hu], huscheme, ?_, ?_, fun hplace => hpath ?_⟩
  · rw [Url.host?, Url.host?, ha', hauthority, Option.bind_some, Option.bind_some, hhost', ha]
  · rw [Url.port?, Url.port?, ha', hauthority, huscheme, Option.bind_some, Option.bind_some, hport]
    -- the port of the scheme is not written, and is meant when none is
    cases hwritten : a.port with
    | none => simp
    | some port =>
      by_cases hdefault : some port = Url.defaultPort? base.scheme
      · simp [← hdefault]
      · rw [if_neg hdefault]
  · rw [← hplaced]
    exact isKeptEnd_placed hencoded hplace

end FlowAudit.Sink
