import FlowAudit.Proofs.Agent.Life
import FlowAudit.Proofs.Filter
import FlowAudit.Proofs.Pipeline.Trace
import FlowAudit.Proofs.Record
import FlowAudit.Proofs.Sink.Destination
import FlowAudit.Proofs.Sink.Service

/-!
# The agent's own traffic

When all sinks are at addresses and the client of services is direct, a sink that is made of a
target sends to the endpoints of the target (`Sink.exists_connect_of_check`), and the endpoints that
count as the agent's own are those of all its targets on the network
(`Agent.mem_selfEndpoints_iff`). So they are the ones that the sinks in use send to if no target
lacked anything on the host, and otherwise there are more of them
(`Agent.sendsTo_of_connectSinks`). No connection of the agent's process, and none to these endpoints
of which nothing else is known, becomes a record (`Agent.not_recorded_of_check`).
-/

namespace FlowAudit

/-! ### Targets -/

namespace SinkTarget

/-- A target names an address if its URL has one for its host, or if it has no URL. -/
def NamesAddress (t : SinkTarget) : Prop :=
  ∀ url ∈ t.url?, ∀ u, Url.parse url = .ok u → (u.host?.bind Url.Host.address?).isSome

instance : DecidablePred NamesAddress := fun t =>
  decidable_of_iff (∀ url ∈ t.url?, ∀ u ∈ (Url.parse url).toOption,
      (u.host?.bind Url.Host.address?).isSome) <| by
    refine forall₂_congr fun url _ => forall_congr' fun u => ?_
    cases Url.parse url <;> simp [Except.toOption]

/-- Each of several targets that make sense together does by itself. -/
theorem check_of_checkAll {earlier ts : List SinkTarget} (h : checkAll earlier ts = .ok ()) :
    ∀ t ∈ ts, t.check = .ok () := by
  induction ts generalizing earlier with
  | nil => exact List.forall_mem_nil _
  | cons t ts ih =>
    rw [checkAll] at h
    cases ht : t.check with
    | error e =>
      rw [ht] at h
      cases h
    | ok _ =>
      rw [ht] at h
      refine List.forall_mem_cons.mpr ⟨ht, ?_⟩
      cases hrepeated : earlier.any t.same with
      | true =>
        rw [hrepeated] at h
        cases h
      | false =>
        rw [hrepeated] at h
        exact ih h

end SinkTarget

/-- The sinks of a configuration that makes sense do so by themselves. -/
theorem Configuration.check_of_mem_sinks {c : Configuration} (h : c.check = .ok ()) :
    ∀ t ∈ c.sinks, t.check = .ok () := by
  rw [check] at h
  cases hall : SinkTarget.checkAll [] c.sinks with
  | ok _ => exact SinkTarget.check_of_checkAll hall
  | error e =>
    rw [hall] at h
    cases hempty : c.sinks.isEmpty <;> rw [hempty] at h <;> cases h

namespace Sink

variable {t : SinkTarget} {contacts : Contacts}

/-- Whether the host has what a target on the network needs: a socket for datagrams, a client for a
service. -/
def Resources.provide (r : Resources) (t : SinkTarget) : Except SinkError Unit :=
  match t with
  | .syslogLocal _ | .syslogTcp _ => .ok ()
  | .syslogUdp address => (r.datagramSocket address).mapError (.unpreparedSocket t.displayName)
  | .searchIndex _ _ | .customEndpoint _ => r.client.mapError .noClient

/-- A service at an address is at the address and the port of its URL, and so is all that is put
below it. -/
theorem exists_endpoint_of_check (hcheck : t.check = .ok ()) (haddress : t.NamesAddress)
    {url : String} (hurl : url ∈ t.url?) :
    ∃ u e, Url.parse url = .ok u ∧ u.isWeb = true ∧ u.endpoint? = some e ∧
      serviceEndpoint? url = some e ∧ ∃ base, parseBase url = .ok base ∧
        ∀ place, ∃ v, below base place = .ok v ∧ v.endpoint? = some e := by
  obtain ⟨u, hparse, hweb⟩ := SinkTarget.parse_of_check hcheck hurl
  obtain ⟨address, hsome⟩ := Option.isSome_iff_exists.mp (haddress url hurl u hparse)
  obtain ⟨host, hhost, haddr⟩ := Option.bind_eq_some_iff.mp hsome
  obtain ⟨e, hendpoint, hservice⟩ := endpoint?_of_parse hparse hweb hhost haddr
  exact ⟨u, e, hparse, hweb, hendpoint, hservice⟩

/-- A target on the network that names an address becomes a sink if the host has what it needs. The
sink sends to where the target is, and nowhere else. -/
theorem exists_connect_of_check (hcheck : t.check = .ok ()) (haddress : t.NamesAddress)
    (hbound : t.isNetworkBound = true) (hdirect : contacts.IsDirect) :
    ∃ s, (∀ r, connect r t = (r.provide t).map fun _ => s) ∧
      ∀ e, s.SendsTo contacts e ↔ e ∈ remoteEndpoints t := by
  cases t with
  | syslogLocal path => cases hbound
  | syslogTcp address =>
    refine ⟨_, fun _ => rfl, fun e => ?_⟩
    rw [sendsTo_iff]
    rfl
  | syslogUdp address =>
    refine ⟨⟨(SinkTarget.syslogUdp address).displayName, .datagrams address⟩, fun r => ?_,
      fun e => ?_⟩
    · rw [connect, Transport.ofTarget, Resources.provide]
      cases r.datagramSocket address <;> rfl
    · rw [sendsTo_iff]
      rfl
  | searchIndex url index =>
    -- the name of the index moves neither the address nor the port
    obtain ⟨u, e, -, -, -, he, base, hbase, hbelow⟩ :=
      exists_endpoint_of_check hcheck haddress (Option.mem_some_self url)
    obtain ⟨document, hdocument, hendpoint⟩ := hbelow (index ++ "/_doc")
    refine ⟨_, connect_searchIndex hbase hdocument, fun e' => ?_⟩
    rw [sendsTo_iff, Transport.endpoints, remoteEndpoints, hdirect document e hendpoint, he]
    rfl
  | customEndpoint url =>
    obtain ⟨u, e, -, -, -, he, base, hbase, hbelow⟩ :=
      exists_endpoint_of_check hcheck haddress (Option.mem_some_self url)
    obtain ⟨opened, hopened, hopenedAt⟩ := hbelow ("connections/" ++ Phase.opened.name)
    obtain ⟨closed, hclosed, hclosedAt⟩ := hbelow ("connections/" ++ Phase.closed.name)
    refine ⟨_, connect_customEndpoint hbase hopened hclosed, fun e' => ?_⟩
    rw [sendsTo_iff, Transport.endpoints, remoteEndpoints, hdirect opened e hopenedAt,
      hdirect closed e hclosedAt, he]
    simp

/-- The sink of a target that is not on the network sends nowhere there. -/
theorem not_sendsTo_of_connect {r : Resources} {s : Sink} (hbound : t.isNetworkBound = false)
    (hs : connect r t = .ok s) (e : Endpoint) : ¬s.SendsTo contacts e := by
  cases t with
  | syslogTcp | syslogUdp | searchIndex | customEndpoint => cases hbound
  | syslogLocal path =>
    rw [connect, Transport.ofTarget] at hs
    cases hfind : r.sockets.find path with
    | error cause =>
      rw [hfind] at hs
      cases hs
    | ok number =>
      rw [hfind] at hs
      obtain rfl := Except.ok.inj hs
      rw [sendsTo_iff]
      exact List.not_mem_nil

end Sink

/-! ### Records -/

namespace Filter

variable {f : Filter} {e : Event}

/-- What the filter keeps is of no process of the agent. -/
theorem pid_ne_of_keep (hself : f.rules.selfTraffic = true) (hkeep : f.verdict e = .keep)
    {a : Attribution} (ha : e.resolution.attribution = some a) : a.pid ≠ f.agentPid :=
  fun hpid => not_leavesOut_of_keep hkeep .selfTraffic ⟨hself, .agent ha hpid⟩

/-- What the filter keeps without a process is not to one of the agent's endpoints. -/
theorem canonical_ne_of_keep (hself : f.rules.selfTraffic = true) (hkeep : f.verdict e = .keep)
    (hnone : e.resolution.attribution = none) :
    ∀ place ∈ f.sinkEndpoints, place.canonical ≠ e.connection.destination.canonical := by
  intro place hplace heq
  obtain ⟨haddress, hport, -⟩ := Endpoint.mk.inj heq
  exact not_leavesOut_of_keep hkeep .selfTraffic ⟨hself, .endpoint hnone hplace haddress hport⟩

end Filter

/-- No process is known of the event of a CLOSE. -/
theorem Correlator.Observation.attribution_event {o : Observation} {id : Uuid}
    (h : (o.event id).phase = .closed) : (o.event id).resolution.attribution = none := by
  have hphase : o.transition.phase = .closed := h
  simp only [event, hphase]
  rfl

namespace Pipeline

open Correlator (Observation)

/-- What becomes a record is kept by the filter, unless it is the CLOSE of a remembered OPEN. -/
theorem verdict_of_process {p : Pipeline} {o : Observation} {r : Record}
    (hr : (p.process o).1 = some r) :
    r.phase = .closed ∧ (p.correlator.remembered r.hash).isSome ∨
      r = .ofEvent p.agent (o.event o.fresh) ∧ p.filter.verdict (o.event o.fresh) = .keep := by
  have hf := p.fates o
  generalize p.process o = x at hf hr
  cases hf with
  | duplicate | openDropped | closeSuppressed | orphanDropped => cases hr
  | openKept _ _ hkeep =>
    obtain rfl := Option.some.inj hr
    exact .inr ⟨rfl, hkeep⟩
  | orphanKept _ _ hkeep =>
    obtain rfl := Option.some.inj hr
    exact .inr ⟨rfl, hkeep⟩
  | closePaired s hphase hs =>
    obtain rfl := Option.some.inj hr
    exact .inl ⟨hphase, Option.isSome_iff_exists.mpr ⟨s, hs⟩⟩

/-- The first OPEN of a connection becomes a record if the filter keeps it. -/
theorem process_opened_of_keep {p : Pipeline} {o : Observation}
    (hphase : o.transition.phase = .opened) (hnone : p.correlator.remembered o.hash = none)
    (hkeep : p.filter.verdict (o.event o.fresh) = .keep) :
    (p.process o).1 = some (.ofEvent p.agent (o.event o.fresh)) := by
  have hf := p.fates o
  generalize p.process o = x at hf ⊢
  cases hf with
  | duplicate _ hdup =>
    have hnew := Correlator.isDuplicate_eq_false_of_remembered hnone o.now
    exact absurd (hnew.symm.trans hdup) Bool.false_ne_true
  | openKept => rfl
  | openDropped reason _ _ hdrop => cases hkeep.symm.trans hdrop
  | closeSuppressed _ hclosed | closePaired _ hclosed | orphanKept hclosed
  | orphanDropped _ hclosed => cases hphase.symm.trans hclosed

/-- Every pipeline of a run has the filter of the first one. -/
theorem filter_of_mem_trace {p : Pipeline} {os : List Observation} :
    ∀ x ∈ p.trace os, x.1.filter = p.filter := by
  induction os generalizing p with
  | nil => exact List.forall_mem_nil _
  | cons o os ih =>
    rw [trace_cons, List.forall_mem_cons]
    exact ⟨rfl, fun x hx => (ih x hx).trans (filter_process p o)⟩

end Pipeline

namespace Agent

open Correlator (Observation)
open Delivery (Reaction)

section AtAddresses

variable {c : Configuration} {contacts : Contacts} (hcheck : c.check = .ok ())
  (haddress : ∀ t ∈ c.sinks, t.NamesAddress)
include hcheck haddress

/-- Every target on the network becomes a sink that sends to where the target is, if the host has
what it needs. -/
theorem exists_connect (hdirect : contacts.IsDirect) {t : SinkTarget} (ht : t ∈ c.sinks)
    (hbound : t.isNetworkBound = true) :
    ∃ s, (∀ r, Sink.connect r t = (r.provide t).map fun _ => s) ∧
      ∀ e, s.SendsTo contacts e ↔ e ∈ Sink.remoteEndpoints t :=
  Sink.exists_connect_of_check (c.check_of_mem_sinks hcheck t ht) (haddress t ht) hbound hdirect

/-- Whatever the host has, a sink that is made of a target sends to endpoints of the agent only. -/
theorem mem_selfEndpoints_of_connect (hdirect : contacts.IsDirect) {t : SinkTarget}
    (ht : t ∈ c.sinks) {r : Sink.Resources} {s : Sink} (hs : Sink.connect r t = .ok s)
    {e : Endpoint} (hsends : s.SendsTo contacts e) : e ∈ selfEndpoints c := by
  cases hbound : t.isNetworkBound with
  | false => exact absurd hsends (Sink.not_sendsTo_of_connect hbound hs e)
  | true =>
    obtain ⟨s', hs', hsends'⟩ := exists_connect hcheck haddress hdirect ht hbound
    rw [hs' r] at hs
    cases hprovide : r.provide t with
    | error cause =>
      rw [hprovide] at hs
      cases hs
    | ok _ =>
      rw [hprovide] at hs
      obtain rfl := Except.ok.inj hs
      exact List.mem_flatMap.mpr ⟨t, List.mem_filter.mpr ⟨ht, hbound⟩, (hsends' e).mp hsends⟩

/-- An endpoint of the agent is where the sink of a target on the network sends to, if the host has
what the target needs. -/
theorem exists_sendsTo_of_mem (hdirect : contacts.IsDirect) {e : Endpoint}
    (he : e ∈ selfEndpoints c) :
    ∃ t ∈ c.sinks, t.isNetworkBound = true ∧ ∃ s, s.SendsTo contacts e ∧
      ∀ r, Sink.connect r t = (r.provide t).map fun _ => s := by
  obtain ⟨t, ht, he⟩ := List.mem_flatMap.mp he
  obtain ⟨ht, hbound⟩ := List.mem_filter.mp ht
  obtain ⟨s, hs, hsends⟩ := exists_connect hcheck haddress hdirect ht hbound
  exact ⟨t, ht, hbound, s, (hsends e).mpr he, hs⟩

/-- The endpoints that count as the agent's own are those that sinks made of its targets send to. -/
theorem mem_selfEndpoints_iff (hdirect : contacts.IsDirect) (e : Endpoint) :
    e ∈ selfEndpoints c ↔
      ∃ t ∈ c.sinks, ∃ r s, Sink.connect r t = .ok s ∧ s.SendsTo contacts e := by
  constructor
  · intro he
    obtain ⟨t, ht, hbound, s, hsends, hs⟩ := exists_sendsTo_of_mem hcheck haddress hdirect he
    refine ⟨t, ht, .ample default, s, ?_, hsends⟩
    rw [hs]
    cases t <;> rfl
  · rintro ⟨t, ht, r, s, hs, hsends⟩
    exact mem_selfEndpoints_of_connect hcheck haddress hdirect ht hs hsends

/-- The sinks in use send to endpoints of the agent only, and to all of them if the host had what
the targets on the network need. -/
theorem sendsTo_of_connectSinks (hdirect : contacts.IsDirect)
    {resources : SinkTarget → Sink.Resources} {usable : List Sink}
    (husable : connectSinks c (fun t => Sink.connect (resources t) t) = .ok usable) :
    (∀ s ∈ usable, ∀ e, s.SendsTo contacts e → e ∈ selfEndpoints c) ∧
      ((∀ t ∈ c.sinks, t.isNetworkBound = true → (resources t).provide t = .ok ()) →
        ∀ e, e ∈ selfEndpoints c ↔ ∃ s ∈ usable, s.SendsTo contacts e) := by
  have hmem (s : Sink) := mem_of_connectSinks (s := s) husable
  have hown : ∀ s ∈ usable, ∀ e, s.SendsTo contacts e → e ∈ selfEndpoints c := by
    intro s hs e hsends
    obtain ⟨t, ht, hconnect⟩ := (hmem s).mp hs
    exact mem_selfEndpoints_of_connect hcheck haddress hdirect ht hconnect hsends
  refine ⟨hown, fun hprovide e => ⟨fun he => ?_, fun ⟨s, hs, hsends⟩ => hown s hs e hsends⟩⟩
  obtain ⟨t, ht, hbound, s, hsends, hs⟩ := exists_sendsTo_of_mem hcheck haddress hdirect he
  refine ⟨s, (hmem s).mpr ⟨t, ht, ?_⟩, hsends⟩
  rw [hs, hprovide t ht hbound]
  rfl

/-- The endpoint of a service counts as the agent's own: the address in its URL and the port written
there, or else 80 or 443. -/
theorem exists_mem_selfEndpoints :
    ∀ t ∈ c.sinks, ∀ url ∈ t.url?, ∃ u host address, Url.parse url = .ok u ∧
      u.host? = some host ∧ host.address? = some address ∧
        ⟨address, (u.authority.bind (·.port)).getD (if u.scheme = "https" then 443 else 80), 0⟩ ∈
          selfEndpoints c := by
  intro t ht url hurl
  obtain ⟨u, e, hparse, hweb, hendpoint, hservice, -⟩ :=
    Sink.exists_endpoint_of_check (c.check_of_mem_sinks hcheck t ht) (haddress t ht) hurl
  simp only [Url.endpoint?, Option.bind_eq_bind, Option.bind_eq_some_iff, Sink.port?_of_isWeb hweb]
    at hendpoint
  obtain ⟨host, hhost, address, haddr, port, hport, he⟩ := hendpoint
  obtain rfl := Option.some.inj hport
  obtain rfl := Option.some.inj he
  refine ⟨u, host, address, hparse, hhost, haddr, ?_⟩
  rw [selfEndpoints, List.mem_flatMap]
  cases t with
  | syslogLocal | syslogTcp | syslogUdp => cases hurl
  | searchIndex url' | customEndpoint url' =>
    obtain rfl := Option.some.inj hurl
    refine ⟨_, List.mem_filter.mpr ⟨ht, rfl⟩, ?_⟩
    rw [Sink.remoteEndpoints, hservice]
    exact List.mem_singleton_self _

end AtAddresses

/-- When all sinks of an agent are at addresses and the client of services is direct, every target
on the network becomes a sink that sends to the endpoints of the target, unless the host lacks what
it needs. The agent's own endpoints are the ones that sinks made of its targets send to; so those in
use send to no others, and to all of them if the host lacked nothing. The port is 80 or 443 where a
URL writes none. Whatever the agent observes, it makes no record

* of an OPEN by its own process,
* of an OPEN by no known process to one of its own endpoints, or
* of a CLOSE to one of them whose OPEN it does not remember. -/
theorem not_recorded_of_check {c : Configuration} {contacts : Contacts}
    (hcheck : c.check = .ok ()) (hself : c.filters.selfTraffic = true)
    (haddress : ∀ t ∈ c.sinks, t.NamesAddress) (hdirect : contacts.IsDirect) :
    (∀ t ∈ c.sinks, t.isNetworkBound = true →
      ∃ s, (∀ r, Sink.connect r t = (r.provide t).map fun _ => s) ∧
        ∀ e, s.SendsTo contacts e ↔ e ∈ Sink.remoteEndpoints t) ∧
    (∀ e, e ∈ selfEndpoints c ↔
      ∃ t ∈ c.sinks, ∃ r s, Sink.connect r t = .ok s ∧ s.SendsTo contacts e) ∧
    (∀ (resources : SinkTarget → Sink.Resources) usable,
      connectSinks c (fun t => Sink.connect (resources t) t) = .ok usable →
        (∀ s ∈ usable, ∀ e, s.SendsTo contacts e → e ∈ selfEndpoints c) ∧
        ((∀ t ∈ c.sinks, t.isNetworkBound = true → (resources t).provide t = .ok ()) →
          ∀ e, e ∈ selfEndpoints c ↔ ∃ s ∈ usable, s.SendsTo contacts e)) ∧
    (∀ t ∈ c.sinks, ∀ url ∈ t.url?, ∃ u host address, Url.parse url = .ok u ∧
      u.host? = some host ∧ host.address? = some address ∧
        ⟨address, (u.authority.bind (·.port)).getD (if u.scheme = "https" then 443 else 80), 0⟩ ∈
          selfEndpoints c) ∧
    ∀ (fresh : Uuid) (pid : UInt32) (sinks : List (String × List Reaction))
      (os : List Observation), ∀ x ∈ (new c fresh pid sinks).pipeline.trace os, ∀ r,
        (x.1.process x.2).1 = some r →
          (r.phase = .opened → ∀ owner ∈ r.owner, owner.process.pid ≠ pid) ∧
          (r.phase = .opened → r.owner = none → ∀ e ∈ selfEndpoints c,
            e.canonical ≠ r.connection.destination.canonical) ∧
          (r.phase = .closed → x.1.correlator.remembered r.hash = none →
            ∀ e ∈ selfEndpoints c, e.canonical ≠ r.connection.destination.canonical) := by
  refine ⟨fun t => exists_connect hcheck haddress hdirect,
    mem_selfEndpoints_iff hcheck haddress hdirect,
    fun resources usable => sendsTo_of_connectSinks hcheck haddress hdirect,
    exists_mem_selfEndpoints hcheck haddress, fun fresh pid sinks os x hx r hr => ?_⟩
  have hfilter : x.1.filter = ⟨c.filters, pid, selfEndpoints c⟩ :=
    Pipeline.filter_of_mem_trace x hx
  have hrules : x.1.filter.rules.selfTraffic = true := by rw [hfilter]; exact hself
  have hplaces : x.1.filter.sinkEndpoints = selfEndpoints c := by rw [hfilter]
  rcases Pipeline.verdict_of_process hr with ⟨hclosed, hsome⟩ | ⟨rfl, hkeep⟩
  · -- the filter has no say in the CLOSE of an OPEN that is remembered
    refine ⟨fun hopened => ?_, fun hopened => ?_, fun _ hnone => ?_⟩
    · rw [hclosed] at hopened
      cases hopened
    · rw [hclosed] at hopened
      cases hopened
    · rw [hnone] at hsome
      cases hsome
  have hcanonical := Filter.canonical_ne_of_keep hrules hkeep
  rw [hplaces] at hcanonical
  refine ⟨fun hopened owner howner => ?_, fun hopened hnone => hcanonical ?_,
    fun hclosed _ => hcanonical ?_⟩
  · rw [Option.mem_def, Record.owner_ofEvent hopened, Option.map_eq_some_iff] at howner
    obtain ⟨a, ha, rfl⟩ := howner
    have hpid := Filter.pid_ne_of_keep hrules hkeep ha
    rwa [hfilter] at hpid
  · rw [Record.owner_ofEvent hopened] at hnone
    exact Option.map_eq_none_iff.mp hnone
  · exact Observation.attribution_event hclosed

/-! ### An agent beside its services -/

/-- A configuration with sinks of several kinds, all of them at addresses. -/
def reporting : Configuration where
  sinks := [.searchIndex "http://10.0.0.5/" "flows", .syslogUdp ⟨.v4 ⟨10, 0, 0, 5⟩, 514, 0⟩,
    .customEndpoint "https://[2001:db8::5]:8443/in"]

/-- A connection by no known process to the host of the search index, whose address is mapped. -/
def reached (port : Port) : Observation :=
  ⟨⟨.opened, ⟨.tcp, .v4 ⟨10, 0, 0, 1⟩, 4000, .v6 (Ipv4.toMapped ⟨10, 0, 0, 5⟩), port⟩⟩, .unresolved,
    default, default, 0⟩

/-- A client that connects to the endpoint that a URL names, and nowhere if it names none. -/
def direct : Contacts :=
  fun u => u.endpoint?.toList

theorem isDirect_direct : direct.IsDirect :=
  fun u e he => by rw [direct, he, Option.toList_some]

/-- The port of the search index, which its URL does not write, is the agent's own, another one is
not. -/
theorem process_reached_reporting :
    reporting.check = .ok () ∧ reporting.filters.selfTraffic = true ∧
      (∀ t ∈ reporting.sinks, t.NamesAddress) ∧ direct.IsDirect ∧
      ((new reporting default 7 []).pipeline.process (reached 80)).1 = none ∧
      ((new reporting default 7 []).pipeline.process (reached 81)).1.isSome = true := by
  have hcheck : reporting.check = .ok () := by decide +kernel
  have haddress : ∀ t ∈ reporting.sinks, t.NamesAddress := by decide +kernel
  have hown : ⟨.v4 ⟨10, 0, 0, 5⟩, 80, 0⟩ ∈ selfEndpoints reporting := by decide +kernel
  have hother : (new reporting default 7 []).pipeline.filter.verdict
      ((reached 81).event default) = .keep := by decide +kernel
  have hkept :=
    Pipeline.process_opened_of_keep rfl (Correlator.remembered_new _ _) hother
  refine ⟨hcheck, rfl, haddress, isDirect_direct, ?_, by rw [hkept]; rfl⟩
  obtain ⟨-, -, -, -, hrecords⟩ := not_recorded_of_check hcheck rfl haddress isDirect_direct
  by_contra hne
  obtain ⟨r, hr⟩ := Option.ne_none_iff_exists'.mp hne
  obtain ⟨hconnection, hphase, -⟩ := Pipeline.of_mem_process hr
  obtain ⟨-, hplace, -⟩ :=
    hrecords default 7 [] [reached 80] (_, reached 80) (List.mem_singleton_self _) r hr
  refine hplace hphase ?_ _ hown ?_
  · rcases Pipeline.verdict_of_process hr with ⟨hclosed, -⟩ | ⟨rfl, -⟩
    · rw [hphase] at hclosed
      cases hclosed
    · rfl
  · rw [hconnection]
    decide

end Agent

end FlowAudit
