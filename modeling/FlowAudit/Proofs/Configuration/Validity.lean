import FlowAudit.Configuration.Validity
import FlowAudit.Proofs.Url.Written

/-!
# What a configuration has to be

A configuration is accepted if and only if it is sound, and is refused for the first fault that it
has (`Configuration.check_iff`). What a sound one is, and which of several faults is the first one,
is said here without going through the configuration in the way of the check: a sink is at fault by
itself or because it is the same as an earlier one, and it is the first one to be if those in front
of it are sound.
-/

namespace FlowAudit

/-! ### Checks -/

/-- A check passes what is sound, and refuses everything else for its fault. -/
structure Decides (result : Except Invalidity Unit) (sound : Prop) (fault : Invalidity → Prop) :
    Prop where
  ok_iff : result = .ok () ↔ sound
  error_iff : ∀ e, result = .error e ↔ fault e

namespace Decides

variable {result : Except Invalidity Unit} {sound sound' : Prop} {fault fault' : Invalidity → Prop}

theorem congr (h : Decides result sound fault) (hsound : sound ↔ sound')
    (hfault : ∀ e, fault e ↔ fault' e) : Decides result sound' fault' where
  ok_iff := h.ok_iff.trans hsound
  error_iff e := (h.error_iff e).trans (hfault e)

/-- What is at fault is not sound. -/
theorem not_sound {e : Invalidity} (h : Decides result sound fault) (he : fault e) : ¬sound := by
  intro hsound
  have hok := h.ok_iff.mpr hsound
  rw [(h.error_iff e).mpr he] at hok
  cases hok

theorem ok : Decides (.ok ()) True fun _ => False where
  ok_iff := iff_of_true rfl trivial
  error_iff _ := iff_of_false nofun id

theorem error (e : Invalidity) : Decides (.error e) False (· = e) where
  ok_iff := iff_of_false nofun id
  error_iff e' := by rw [Except.error.injEq, eq_comm]

/-- A condition that must not hold, in front of a check. -/
theorem ite {bad : Prop} [Decidable bad] {e : Invalidity}
    (h : ¬bad → Decides result sound fault) :
    Decides (if bad then .error e else result) (¬bad ∧ sound)
      fun e' => bad ∧ e' = e ∨ ¬bad ∧ fault e' := by
  split
  · rename_i hbad
    exact (Decides.error e).congr (by simp [hbad]) (by simp [hbad])
  · rename_i hgood
    exact (h hgood).congr (by simp [hgood]) (by simp [hgood])

/-- A check in front of another one. -/
theorem bind {result' : Except Invalidity Unit} (h : Decides result sound fault)
    (h' : sound → Decides result' sound' fault') :
    Decides (result >>= fun _ => result') (sound ∧ sound')
      fun e => fault e ∨ sound ∧ fault' e := by
  cases hresult : result with
  | ok _ =>
    have hsound : sound := h.ok_iff.mp hresult
    refine (h' hsound).congr (by simp [hsound]) fun e => ?_
    rw [or_iff_right fun hfault => h.not_sound hfault hsound, and_iff_right hsound]
  | error e =>
    have hfault : fault e := (h.error_iff e).mp hresult
    have hnot : ¬sound := h.not_sound hfault
    refine (Decides.error e).congr (by simp [hnot]) fun e' => ?_
    rw [or_iff_left fun hlater => hnot hlater.1, ← h.error_iff, hresult, Except.error.injEq,
      eq_comm]

end Decides

/-! ### Sinks by themselves -/

theorem Url.isWeb_iff {u : Url} : u.isWeb = true ↔ u.scheme = "http" ∨ u.scheme = "https" := by
  rw [isWeb, Bool.or_eq_true, decide_eq_true_eq, decide_eq_true_eq]

namespace SinkTarget

/-- Whether a text is the URL of a web server: it can be read, its scheme is one of web servers, and
it names a host. -/
def IsWebUrl (text : String) : Prop :=
  ∃ u host, Url.parse text = .ok u ∧ (u.scheme = "http" ∨ u.scheme = "https") ∧
    u.host? = some host ∧ host.render ≠ ""

/-- What is wrong with a text that is not the URL of a web server. -/
inductive UrlFault (text : String) : Invalidity → Prop
  | unreadable {reason : UrlError} (hparse : Url.parse text = .error reason) :
    UrlFault text (.unreadableUrl text reason)
  | scheme {u : Url} (hparse : Url.parse text = .ok u)
    (hscheme : u.scheme ≠ "http" ∧ u.scheme ≠ "https") : UrlFault text (.foreignScheme text)
  | host {u : Url} (hparse : Url.parse text = .ok u)
    (hscheme : u.scheme = "http" ∨ u.scheme = "https")
    (hhost : ∀ host ∈ u.host?, host.render = "") : UrlFault text (.noHost text)

/-- Whether a target makes sense by itself. -/
def IsSound : SinkTarget → Prop
  | .syslogLocal _ => True
  | .syslogTcp address | .syslogUdp address => address.port ≠ 0
  | .searchIndex url index => IsWebUrl url ∧ index ≠ "" ∧ '/' ∉ index.toList
  | .customEndpoint url => IsWebUrl url

/-- The first thing that is wrong with a target by itself. -/
inductive Fault : SinkTarget → Invalidity → Prop
  | streamPort {address : Endpoint} (hport : address.port = 0) :
    Fault (.syslogTcp address) (.zeroPort (.syslogTcp address))
  | datagramPort {address : Endpoint} (hport : address.port = 0) :
    Fault (.syslogUdp address) (.zeroPort (.syslogUdp address))
  | indexUrl {url index : String} {e : Invalidity} (hurl : UrlFault url e) :
    Fault (.searchIndex url index) e
  | indexName {url index : String} (hurl : IsWebUrl url)
    (hindex : index = "" ∨ '/' ∈ index.toList) : Fault (.searchIndex url index) (.badIndexName index)
  | endpointUrl {url : String} {e : Invalidity} (hurl : UrlFault url e) :
    Fault (.customEndpoint url) e

/-- The URL of a web server always names a host. -/
theorem exists_host_of_parse {text : String} {u : Url} (h : Url.parse text = .ok u)
    (hweb : u.isWeb = true) : ∃ host, u.host? = some host ∧ host.render ≠ "" := by
  obtain ⟨⟨a, host, hauthority, hhost, hstable, -⟩, -⟩ := Url.exists_of_parse h hweb
  refine ⟨host, by rw [Url.host?, hauthority, Option.bind_some, hhost], fun hempty => ?_⟩
  exact Url.Host.render_ne_nil_of_isStable hstable (by rw [hempty]; rfl)

theorem checkUrl_decides (text : String) :
    Decides (checkUrl text) (IsWebUrl text) (UrlFault text) := by
  rw [checkUrl]
  cases hparse : Url.parse text with
  | error reason =>
    refine (Decides.error _).congr ?_ fun e => ⟨?_, fun hfault => ?_⟩
    · refine iff_of_false id ?_
      rintro ⟨u, host, hparse', -⟩
      cases hparse.symm.trans hparse'
    · rintro rfl
      exact .unreadable hparse
    · cases hfault with
      | unreadable hparse' =>
        cases hparse.symm.trans hparse'
        rfl
      | scheme hparse' | host hparse' => cases hparse.symm.trans hparse'
  | ok u =>
    have hsame {u' : Url} (hparse' : Url.parse text = .ok u') : u' = u :=
      Except.ok.inj (hparse'.symm.trans hparse)
    have hforeign : (!u.isWeb) = true ↔ u.scheme ≠ "http" ∧ u.scheme ≠ "https" := by
      rw [Bool.not_eq_true', ← Bool.not_eq_true, Url.isWeb_iff, not_or]
    have hweb : ¬(!u.isWeb) = true ↔ u.scheme = "http" ∨ u.scheme = "https" := by
      rw [Bool.not_eq_true', Bool.not_eq_false, Url.isWeb_iff]
    have hnamed (hscheme : u.scheme = "http" ∨ u.scheme = "https") :
        ∃ host, u.host? = some host ∧ host.render ≠ "" :=
      exists_host_of_parse hparse (Url.isWeb_iff.mpr hscheme)
    refine (Decides.ite fun _ => .ite fun _ => .ok).congr ⟨?_, ?_⟩ fun e => ⟨?_, fun hfault => ?_⟩
    · rintro ⟨hscheme, -⟩
      obtain ⟨host, hhost, hrender⟩ := hnamed (hweb.mp hscheme)
      exact ⟨u, host, hparse, hweb.mp hscheme, hhost, hrender⟩
    · rintro ⟨u', host, hparse', hscheme, hhost, -⟩
      obtain rfl := hsame hparse'
      exact ⟨hweb.mpr hscheme, by simp [hhost], trivial⟩
    · rintro (⟨hscheme, rfl⟩ | ⟨hscheme, ⟨hnone, rfl⟩ | ⟨-, ⟨⟩⟩⟩)
      · exact .scheme hparse (hforeign.mp hscheme)
      · obtain ⟨host, hhost, -⟩ := hnamed (hweb.mp hscheme)
        simp [hhost] at hnone
    · cases hfault with
      | unreadable hparse' => cases hparse.symm.trans hparse'
      | scheme hparse' hscheme =>
        obtain rfl := hsame hparse'
        exact .inl ⟨hforeign.mpr hscheme, rfl⟩
      | host hparse' hscheme hempty =>
        obtain rfl := hsame hparse'
        obtain ⟨host, hhost, hrender⟩ := hnamed hscheme
        exact absurd (hempty host hhost) hrender

theorem check_decides (t : SinkTarget) : Decides t.check t.IsSound t.Fault := by
  cases t with
  | syslogLocal path => exact .congr .ok Iff.rfl fun e => ⟨nofun, nofun⟩
  | syslogTcp address =>
    refine (Decides.ite fun _ => .ok).congr (and_iff_left trivial) fun e => ⟨?_, fun hfault => ?_⟩
    · rintro (⟨hport, rfl⟩ | ⟨-, ⟨⟩⟩)
      exact .streamPort hport
    · cases hfault with
      | streamPort hport => exact .inl ⟨hport, rfl⟩
  | syslogUdp address =>
    refine (Decides.ite fun _ => .ok).congr (and_iff_left trivial) fun e => ⟨?_, fun hfault => ?_⟩
    · rintro (⟨hport, rfl⟩ | ⟨-, ⟨⟩⟩)
      exact .datagramPort hport
    · cases hfault with
      | datagramPort hport => exact .inl ⟨hport, rfl⟩
  | customEndpoint url =>
    refine (checkUrl_decides url).congr Iff.rfl fun e => ⟨.endpointUrl, fun hfault => ?_⟩
    cases hfault with
    | endpointUrl hurl => exact hurl
  | searchIndex url index =>
    have hname : (decide (index = "") || index.toList.contains '/') = true ↔
        index = "" ∨ '/' ∈ index.toList := by
      simp
    refine ((checkUrl_decides url).bind fun _ => .ite fun _ => .ok).congr ?_
      fun e => ⟨?_, fun hfault => ?_⟩
    · rw [hname, not_or, and_true]
      rfl
    · rintro (hurl | ⟨hurl, ⟨hindex, rfl⟩ | ⟨-, ⟨⟩⟩⟩)
      · exact .indexUrl hurl
      · exact .indexName hurl (hname.mp hindex)
    · cases hfault with
      | indexUrl hurl => exact .inl hurl
      | indexName hurl hindex => exact .inr ⟨hurl, .inl ⟨hname.mpr hindex, rfl⟩⟩

/-! ### Sinks behind others -/

theorem same_self (t : SinkTarget) : t.same t = true := by
  cases t <;> simp [same, Path.same]

theorem same_comm (s t : SinkTarget) : s.same t = t.same s := by
  cases s <;> cases t <;> simp [same, Path.same, eq_comm]

/-- Whether all targets make sense by themselves, and no two at different positions are the same. -/
structure AreSound (ts : List SinkTarget) : Prop where
  each : ∀ t ∈ ts, t.IsSound
  distinct : ∀ (i j : Nat) (s t : SinkTarget), ts[i]? = some s → ts[j]? = some t → i ≠ j →
    s.same t = false

/-- What is wrong with a target behind others: it makes no sense by itself or, if it does, it is the
same as one of the others. -/
inductive FaultBehind (earlier : List SinkTarget) (t : SinkTarget) : Invalidity → Prop
  | itself {e : Invalidity} (hfault : t.Fault e) : FaultBehind earlier t e
  | repeated {s : SinkTarget} (hsound : t.IsSound) (hs : s ∈ earlier) (hsame : s.same t = true) :
    FaultBehind earlier t (.repeatedSink t)

/-- Targets at different positions differ if each one differs from those in front of it. -/
theorem areSound_iff_pairwise {ts : List SinkTarget} :
    AreSound ts ↔ (∀ t ∈ ts, t.IsSound) ∧ ts.Pairwise fun s t => s.same t = false := by
  rw [List.pairwise_iff_getElem]
  constructor
  · rintro ⟨heach, hdistinct⟩
    refine ⟨heach, fun i j hi hj hlt => ?_⟩
    exact hdistinct i j _ _ (List.getElem?_eq_getElem hi) (List.getElem?_eq_getElem hj) hlt.ne
  · rintro ⟨heach, hpairs⟩
    refine ⟨heach, fun i j s t hs ht hne => ?_⟩
    obtain ⟨hi, rfl⟩ := List.getElem?_eq_some_iff.mp hs
    obtain ⟨hj, rfl⟩ := List.getElem?_eq_some_iff.mp ht
    rcases Nat.lt_or_gt_of_ne hne with hlt | hgt
    · exact hpairs i j hi hj hlt
    · rw [same_comm]
      exact hpairs j i hj hi hgt

theorem areSound_nil : AreSound [] :=
  ⟨nofun, nofun⟩

theorem areSound_concat {ts : List SinkTarget} {t : SinkTarget} :
    AreSound (ts ++ [t]) ↔ AreSound ts ∧ t.IsSound ∧ ∀ s ∈ ts, s.same t = false := by
  simp only [areSound_iff_pairwise, List.pairwise_append, List.forall_mem_append,
    List.forall_mem_singleton, List.pairwise_singleton]
  tauto

theorem AreSound.of_append {front back : List SinkTarget} (h : AreSound (front ++ back)) :
    AreSound front := by
  rw [areSound_iff_pairwise, List.pairwise_append, List.forall_mem_append] at h
  exact areSound_iff_pairwise.mpr ⟨h.1.1, h.2.1⟩

/-- A split of a list is in front of all of it or behind its first element. -/
theorem exists_eq_append_cons {α : Type} {p : List α → α → Prop} {a : α} {l : List α} :
    (∃ front x later, a :: l = front ++ x :: later ∧ p front x) ↔
      p [] a ∨ ∃ front x later, l = front ++ x :: later ∧ p (a :: front) x := by
  constructor
  · rintro ⟨front, x, later, hsplit, hp⟩
    cases front with
    | nil =>
      obtain ⟨rfl, -⟩ := List.cons.inj hsplit
      exact .inl hp
    | cons b front =>
      obtain ⟨rfl, hl⟩ := List.cons.inj hsplit
      exact .inr ⟨front, x, later, hl, hp⟩
  · rintro (hp | ⟨front, x, later, rfl, hp⟩)
    · exact ⟨[], a, l, rfl, hp⟩
    · exact ⟨a :: front, x, later, rfl, hp⟩

theorem faultBehind_iff {earlier : List SinkTarget} {t : SinkTarget} {e : Invalidity} :
    FaultBehind earlier t e ↔
      t.Fault e ∨ t.IsSound ∧ (∃ s ∈ earlier, s.same t = true) ∧ e = .repeatedSink t := by
  constructor
  · rintro (⟨hfault⟩ | ⟨hsound, hs, hsame⟩)
    · exact .inl hfault
    · exact .inr ⟨hsound, ⟨_, hs, hsame⟩, rfl⟩
  · rintro (hfault | ⟨hsound, ⟨s, hs, hsame⟩, rfl⟩)
    · exact .itself hfault
    · exact .repeated hsound hs hsame

/-- Targets behind sound ones are refused for the fault of the first one that has a fault behind all
those in front of it. -/
theorem checkAll_decides {earlier : List SinkTarget} (hearlier : AreSound earlier)
    (ts : List SinkTarget) :
    Decides (checkAll earlier ts) (AreSound (earlier ++ ts)) fun e =>
      ∃ front t later, ts = front ++ t :: later ∧
        (AreSound (earlier ++ front) ∧ FaultBehind (earlier ++ front) t e) := by
  induction ts generalizing earlier with
  | nil =>
    refine Decides.ok.congr (iff_of_true trivial (by rwa [List.append_nil])) fun e => ?_
    refine iff_of_false id ?_
    rintro ⟨front, t, later, hsplit, -⟩
    exact List.cons_ne_nil t later (List.append_eq_nil_iff.mp hsplit.symm).2
  | cons t rest ih =>
    have hrepeated : earlier.any t.same = true ↔ ∃ s ∈ earlier, s.same t = true := by
      simp only [List.any_eq_true, same_comm t]
    have hconcat (hsound : t.IsSound) (hnew : ¬earlier.any t.same = true) :
        AreSound (earlier ++ [t]) := by
      refine areSound_concat.mpr ⟨hearlier, hsound, fun s hs => ?_⟩
      rw [← Bool.not_eq_true]
      exact fun hsame => hnew (hrepeated.mpr ⟨s, hs, hsame⟩)
    have hnew {front : List SinkTarget} (h : AreSound (earlier ++ t :: front)) :
        t.IsSound ∧ ¬earlier.any t.same = true := by
      rw [List.append_cons] at h
      obtain ⟨-, hsound, hdistinct⟩ := areSound_concat.mp h.of_append
      refine ⟨hsound, fun hany => ?_⟩
      obtain ⟨s, hs, hsame⟩ := hrepeated.mp hany
      rw [hdistinct s hs] at hsame
      cases hsame
    refine ((check_decides t).bind fun hsound =>
      .ite fun hany => ih (hconcat hsound hany)).congr ?_ fun e => ?_
    · rw [← List.append_cons, ← and_assoc]
      exact and_iff_right_of_imp hnew
    · rw [exists_eq_append_cons, List.append_nil, and_iff_right hearlier, faultBehind_iff,
        ← hrepeated, or_assoc, and_or_left, ← and_assoc (b := ¬_)]
      simp only [← List.append_cons]
      -- what is wrong with a later target counts only if nothing is with this one
      refine or_congr_right (or_congr_right (and_iff_right_of_imp ?_))
      rintro ⟨front, s, later, -, hsound, -⟩
      exact hnew hsound

end SinkTarget

/-! ### All settings -/

namespace Configuration

open SinkTarget (AreSound FaultBehind)

/-- Whether a configuration makes sense. -/
structure IsSound (c : Configuration) : Prop where
  sinks_ne_nil : c.sinks ≠ []
  sinks : AreSound c.sinks
  pollInterval : 0 < c.source.pollInterval
  maxConsecutiveFailures : 0 < c.source.maxConsecutiveFailures
  capacity : 0 < c.correlator.capacity
  maxScanProcesses : 0 < c.resolver.maxScanProcesses
  queueCapacity : 0 < c.dispatch.queueCapacity
  deliveryTimeout : 0 < c.dispatch.deliveryTimeout
  backoff : c.dispatch.backoffBase ≤ c.dispatch.backoffMax

/-- Whether no setting is zero that must not be. -/
structure HasNoZero (c : Configuration) : Prop where
  pollInterval : 0 < c.source.pollInterval
  maxConsecutiveFailures : 0 < c.source.maxConsecutiveFailures
  capacity : 0 < c.correlator.capacity
  maxScanProcesses : 0 < c.resolver.maxScanProcesses
  queueCapacity : 0 < c.dispatch.queueCapacity
  deliveryTimeout : 0 < c.dispatch.deliveryTimeout

/-- The first thing that is wrong with the settings beside the sinks: a setting is zero that must
not be, and those listed in front of it are not; or, if none is, the delays between attempts are in
the wrong order. -/
inductive SettingFault (c : Configuration) : Invalidity → Prop
  | zero {front later : List (String × Nat)} {setting : String}
    (hsettings : [("source.poll_interval_ms", c.source.pollInterval.toNat),
      ("source.max_consecutive_failures", c.source.maxConsecutiveFailures.toNat),
      ("correlator.capacity", c.correlator.capacity),
      ("resolver.max_scan_processes", c.resolver.maxScanProcesses),
      ("dispatch.queue_capacity", c.dispatch.queueCapacity),
      ("dispatch.delivery_timeout_ms", c.dispatch.deliveryTimeout.toNat)] =
        front ++ (setting, 0) :: later)
    (hfront : ∀ s ∈ front, 0 < s.2) : SettingFault c (.zero setting)
  | backoff (hsettings : c.HasNoZero)
    (hbackoff : c.dispatch.backoffMax < c.dispatch.backoffBase) : SettingFault c .backoffOrder

/-- The first thing that is wrong with a configuration: there is no sink; else a sink is at fault
behind sound ones; else the other settings are. -/
inductive FirstFault (c : Configuration) : Invalidity → Prop
  | noSinks (hsinks : c.sinks = []) : FirstFault c .noSinks
  | sink {earlier later : List SinkTarget} {t : SinkTarget} {e : Invalidity}
    (hsinks : c.sinks = earlier ++ t :: later) (hearlier : AreSound earlier)
    (hfault : FaultBehind earlier t e) : FirstFault c e
  | setting {e : Invalidity} (hne : c.sinks ≠ []) (hsinks : AreSound c.sinks)
    (hfault : c.SettingFault e) : FirstFault c e

theorem hasNoZero_iff {c : Configuration} :
    c.HasNoZero ↔ ∀ s ∈ c.positiveSettings, 0 < s.2 := by
  have hpoll : 0 < c.source.pollInterval ↔ 0 < c.source.pollInterval.toNat :=
    UInt64.lt_iff_toNat_lt
  have hfailures : 0 < c.source.maxConsecutiveFailures ↔
      0 < c.source.maxConsecutiveFailures.toNat := UInt32.lt_iff_toNat_lt
  have htimeout : 0 < c.dispatch.deliveryTimeout ↔ 0 < c.dispatch.deliveryTimeout.toNat :=
    UInt64.lt_iff_toNat_lt
  simp only [positiveSettings, List.forall_mem_cons, List.not_mem_nil, false_implies,
    implies_true, and_true]
  rw [← hpoll, ← hfailures, ← htimeout]
  constructor
  · intro h
    exact ⟨h.pollInterval, h.maxConsecutiveFailures, h.capacity, h.maxScanProcesses,
      h.queueCapacity, h.deliveryTimeout⟩
  · rintro ⟨h₁, h₂, h₃, h₄, h₅, h₆⟩
    exact ⟨h₁, h₂, h₃, h₄, h₅, h₆⟩

/-- A configuration makes sense if its sinks, the settings that must not be zero and the delays
between attempts do. -/
theorem isSound_iff {c : Configuration} :
    c.IsSound ↔ c.sinks ≠ [] ∧ AreSound c.sinks ∧ c.HasNoZero ∧
      c.dispatch.backoffBase ≤ c.dispatch.backoffMax :=
  ⟨fun ⟨h₁, h₂, h₃, h₄, h₅, h₆, h₇, h₈, h₉⟩ => ⟨h₁, h₂, ⟨h₃, h₄, h₅, h₆, h₇, h₈⟩, h₉⟩,
    fun ⟨h₁, h₂, ⟨h₃, h₄, h₅, h₆, h₇, h₈⟩, h₉⟩ => ⟨h₁, h₂, h₃, h₄, h₅, h₆, h₇, h₈, h₉⟩⟩

/-- The first setting that is zero stands behind positive ones. -/
theorem find?_zero_iff {settings : List (String × Nat)} {setting : String} {value : Nat} :
    settings.find? (·.2 = 0) = some (setting, value) ↔ value = 0 ∧
      ∃ front later, settings = front ++ (setting, 0) :: later ∧ ∀ s ∈ front, 0 < s.2 := by
  rw [List.find?_eq_some_iff_append]
  constructor
  · rintro ⟨hvalue, front, later, hsettings, hfront⟩
    obtain rfl : value = 0 := of_decide_eq_true hvalue
    exact ⟨rfl, front, later, hsettings, fun s hs => by
      simpa [Nat.pos_iff_ne_zero] using hfront s hs⟩
  · rintro ⟨rfl, front, later, hsettings, hfront⟩
    exact ⟨rfl, front, later, hsettings, fun s hs => by simpa using (hfront s hs).ne'⟩

/-- Checks that no setting is zero. -/
def checkPositive (settings : List (String × Nat)) : Except Invalidity Unit :=
  match settings.find? (·.2 = 0) with
  | some (setting, _) => .error (.zero setting)
  | none => .ok ()

theorem checkPositive_decides (settings : List (String × Nat)) :
    Decides (checkPositive settings) (∀ s ∈ settings, 0 < s.2) fun e =>
      ∃ front setting later, settings = front ++ (setting, 0) :: later ∧
        (∀ s ∈ front, 0 < s.2) ∧ e = .zero setting := by
  rw [checkPositive]
  cases hzero : settings.find? (·.2 = 0) with
  | some found =>
    obtain ⟨setting, value⟩ := found
    obtain ⟨rfl, front, later, hsettings, hfront⟩ := find?_zero_iff.mp hzero
    refine (Decides.error _).congr (iff_of_false id fun hpos => ?_) fun e => ⟨?_, ?_⟩
    · exact absurd (hpos (setting, 0) (by rw [hsettings]; simp)) (Nat.lt_irrefl 0)
    · rintro rfl
      exact ⟨front, setting, later, hsettings, hfront, rfl⟩
    · rintro ⟨front', setting', later', hsettings', hfront', rfl⟩
      have hzero' := find?_zero_iff.mpr ⟨rfl, front', later', hsettings', hfront'⟩
      rw [(Prod.mk.inj (Option.some.inj (hzero'.symm.trans hzero))).1]
  | none =>
    refine Decides.ok.congr (iff_of_true trivial fun s hs => ?_) fun e => iff_of_false id ?_
    · exact Nat.pos_of_ne_zero fun h => List.find?_eq_none.mp hzero s hs (decide_eq_true h)
    · rintro ⟨front, setting, later, rfl, -, -⟩
      simp at hzero

theorem check_eq (c : Configuration) :
    c.check =
      if c.sinks.isEmpty then .error .noSinks
      else SinkTarget.checkAll [] c.sinks >>= fun _ =>
        checkPositive c.positiveSettings >>= fun _ =>
          if c.dispatch.backoffBase > c.dispatch.backoffMax then .error .backoffOrder
          else .ok () := by
  rw [check, checkPositive]
  split
  · rfl
  · cases c.positiveSettings.find? (·.2 = 0) <;> rfl

theorem check_decides (c : Configuration) : Decides c.check c.IsSound c.FirstFault := by
  have hempty : c.sinks.isEmpty = true ↔ c.sinks = [] := List.isEmpty_iff
  have hbackoff : ¬c.dispatch.backoffBase > c.dispatch.backoffMax ↔
      c.dispatch.backoffBase ≤ c.dispatch.backoffMax := UInt64.not_lt
  rw [check_eq]
  refine (Decides.ite fun _ => (SinkTarget.checkAll_decides SinkTarget.areSound_nil _).bind
    fun _ => (checkPositive_decides _).bind fun _ => .ite fun _ => .ok).congr ?_
      fun e => ⟨?_, fun hfault => ?_⟩
  · rw [isSound_iff, hempty, List.nil_append, hbackoff, hasNoZero_iff, and_true]
  · rintro (⟨hnone, rfl⟩ | ⟨hne, ⟨earlier, t, later, hsinks, hearlier, hfault⟩ | ⟨hsinks,
      ⟨front, setting, later, hsettings, hfront, rfl⟩ | ⟨hpos, ⟨horder, rfl⟩ | ⟨-, ⟨⟩⟩⟩⟩⟩)
    · exact .noSinks (hempty.mp hnone)
    · exact .sink hsinks hearlier hfault
    · exact .setting (mt hempty.mpr hne) hsinks (.zero hsettings hfront)
    · exact .setting (mt hempty.mpr hne) hsinks (.backoff (hasNoZero_iff.mpr hpos) horder)
  · cases hfault with
    | noSinks hnone => exact .inl ⟨hempty.mpr hnone, rfl⟩
    | sink hsinks hearlier hfault =>
      refine .inr ⟨fun hnone => ?_, .inl ⟨_, _, _, hsinks, hearlier, hfault⟩⟩
      simp [hempty.mp hnone] at hsinks
    | setting hne hsinks hfault =>
      refine .inr ⟨mt hempty.mp hne, .inr ⟨hsinks, ?_⟩⟩
      cases hfault with
      | zero hsettings hfront => exact .inl ⟨_, _, _, hsettings, hfront, rfl⟩
      | backoff hpos horder => exact .inr ⟨hasNoZero_iff.mp hpos, .inl ⟨horder, rfl⟩⟩

/-- A configuration is accepted if and only if it makes sense, and is refused for the first thing
that is wrong with it. -/
theorem check_iff (c : Configuration) :
    (c.check = .ok () ↔ c.IsSound) ∧ ∀ e, c.check = .error e ↔ c.FirstFault e :=
  ⟨(check_decides c).ok_iff, (check_decides c).error_iff⟩

/-- Of two settings that are zero the one of the correlator counts. -/
example : ({ sinks := [.syslogLocal defaultSyslogSocket], resolver := { maxScanProcesses := 0 }
             correlator := { capacity := 0 } } : Configuration).check =
    .error (.zero "correlator.capacity") := rfl

end Configuration

end FlowAudit
