import FlowAudit.Proofs.Sink.Http
import FlowAudit.Sink

/-!
# Where sinks send

`Sink.SendsTo` says without looking into a sink what it is to send somewhere: what is there can make
a difference for what becomes of a message. Where the client of a service connects when it is asked
for a URL is not known here: it may go through a proxy, or be sent on to another place. `Contacts`
stands for it, and a client that does neither is direct (`Contacts.IsDirect`).

A sink sends to the endpoints of its transport and nowhere else (`Sink.sendsTo_iff`). A service
whose URL names an address is at this address, and so is all that is asked for below it
(`Sink.endpoint?_of_parse`).
-/

namespace FlowAudit

/-! ### Clients of services -/

/-- The endpoint that a URL names, if its host is an address: that address, at the port of the URL
or that of its scheme. -/
def Url.endpoint? (u : Url) : Option Endpoint := do
  let address ← (← u.host?).address?
  return ⟨address, ← u.port?, 0⟩

/-- Where the client of a service connects when it is asked for a URL. -/
abbrev Contacts := Url → List Endpoint

/-- A client is direct if, asked for a URL that names an endpoint, it connects there and nowhere
else: it goes through no proxy, and is not sent on. -/
def Contacts.IsDirect (contacts : Contacts) : Prop :=
  ∀ u e, u.endpoint? = some e → contacts u = [e]

/-! ### Networks that differ in one place -/

namespace Network

/-- Two networks differ in what is at one endpoint at most. -/
structure AgreeOff (contacts : Contacts) (e : Endpoint) (n n' : Network) : Prop where
  post : ∀ u body, e ∉ contacts u → n.post u body = n'.post u body
  stream : ∀ address text, address ≠ e → n.stream address text = n'.stream address text
  datagram : ∀ address text, address ≠ e → n.datagram address text = n'.datagram address text

/-- A network on which one endpoint takes everything, and nothing else can be reached. -/
def only (contacts : Contacts) (e : Endpoint) : Network where
  post u _ := if e ∈ contacts u then some 200 else none
  stream address _ := address = e
  datagram address _ := address = e

theorem agreeOff_only (contacts : Contacts) (e : Endpoint) :
    AgreeOff contacts e .silent (.only contacts e) where
  post u body hne := by simp [silent, only, hne]
  stream address text hne := by simp [silent, only, hne]
  datagram address text hne := by simp [silent, only, hne]

end Network

namespace Sink

/-! ### Sinks -/

/-- A sink sends to an endpoint if what is there can make a difference for what becomes of a
message. -/
def SendsTo (s : Sink) (contacts : Contacts) (e : Endpoint) : Prop :=
  ∃ (around : Surroundings) (network : Network) (m : Message),
    around.network.AgreeOff contacts e network ∧
      (s.deliver around m).1 ≠ (s.deliver { around with network } m).1

/-- Where the messages that go over a transport are sent. -/
def Transport.endpoints (contacts : Contacts) : Transport → List Endpoint
  | .localSocket _ _ => []
  | .stream address | .datagrams address => [address]
  | .searchIndex document => contacts document
  | .customEndpoint opened closed => contacts opened ++ contacts closed

variable {s : Sink} {contacts : Contacts} {e : Endpoint}

/-- What is nowhere among its endpoints makes no difference for a sink. -/
theorem deliver_of_agreeOff (he : e ∉ Transport.endpoints contacts s.transport)
    {around : Surroundings} {network : Network}
    (hagree : around.network.AgreeOff contacts e network) (m : Message) :
    s.deliver around m = s.deliver { around with network } m := by
  obtain ⟨name, transport⟩ := s
  cases transport with
  | localSocket path connected => rfl
  | stream address =>
    have hne : address ≠ e := fun h => he (by rw [h]; exact List.mem_singleton_self e)
    simp only [deliver, Message.line, hagree.stream address _ hne]
    rfl
  | datagrams address =>
    have hne : address ≠ e := fun h => he (by rw [h]; exact List.mem_singleton_self e)
    simp only [deliver, Message.line, hagree.datagram address _ hne]
    rfl
  | searchIndex document => simp only [deliver, hagree.post document _ he]
  | customEndpoint opened closed =>
    have hne : e ∉ contacts (route opened closed m.phase) := by
      intro h
      refine he (List.mem_append.mpr ?_)
      cases hphase : m.phase with
      | opened => exact .inl (by rwa [hphase] at h)
      | closed => exact .inr (by rwa [hphase] at h)
    simp only [deliver, hagree.post _ _ hne]

/-- The surroundings of a sink that reaches nothing. -/
def quiet : Surroundings :=
  ⟨default, .silent, "", "", 0⟩

/-- A message without text. -/
def emptyMessage (phase : Phase) : Message :=
  ⟨phase, ""⟩

theorem utf8ByteSize_line_le :
    ¬ ((emptyMessage .opened).line quiet).utf8ByteSize > maxNetworkDatagram := by
  decide +kernel

theorem sendsTo_of_ne {phase : Phase}
    (h : (s.deliver quiet (emptyMessage phase)).1 ≠
      (s.deliver { quiet with network := .only contacts e } (emptyMessage phase)).1) :
    s.SendsTo contacts e :=
  ⟨quiet, .only contacts e, emptyMessage phase, Network.agreeOff_only contacts e, h⟩

/-- What is at one of its endpoints makes a difference for a sink. -/
theorem sendsTo_of_mem (he : e ∈ Transport.endpoints contacts s.transport) :
    s.SendsTo contacts e := by
  obtain ⟨name, transport⟩ := s
  cases transport with
  | localSocket path connected => cases he
  | stream address =>
    obtain rfl := List.mem_singleton.mp he
    exact @sendsTo_of_ne _ _ _ .opened (by simp [deliver, quiet, Network.silent, Network.only])
  | datagrams address =>
    obtain rfl := List.mem_singleton.mp he
    have hsmall := utf8ByteSize_line_le
    have hsame : (emptyMessage .opened).line { quiet with network := .only contacts e } =
        (emptyMessage .opened).line quiet := rfl
    refine @sendsTo_of_ne _ _ _ .opened ?_
    simp only [deliver, hsame]
    rw [if_neg hsmall, if_neg hsmall]
    simp [quiet, Network.silent, Network.only]
  | searchIndex document =>
    have hdocument : e ∈ contacts document := he
    exact @sendsTo_of_ne _ _ _ .opened (by
      simp [deliver, quiet, Network.silent, Network.only, hdocument, classifyAnswer,
        classifyStatus, indexAccepts])
  | customEndpoint opened closed =>
    have hanswer (phase : Phase) (hroute : e ∈ contacts (route opened closed phase)) :
        SendsTo ⟨name, .customEndpoint opened closed⟩ contacts e :=
      @sendsTo_of_ne _ _ _ phase (by
        simp [deliver, quiet, Network.silent, Network.only, emptyMessage, hroute, classifyAnswer,
          classifyStatus, endpointAccepts])
    rcases List.mem_append.mp he with he | he
    · exact hanswer .opened he
    · exact hanswer .closed he

/-- A sink sends to the endpoints of its transport and nowhere else. -/
theorem sendsTo_iff : s.SendsTo contacts e ↔ e ∈ Transport.endpoints contacts s.transport := by
  constructor
  · rintro ⟨around, network, m, hagree, hne⟩
    by_contra he
    exact hne (by rw [deliver_of_agreeOff he hagree])
  · exact sendsTo_of_mem

/-! ### Services -/

theorem addressOf?_eq {host : Url.Host} (h : host.address?.isSome) :
    addressOf? host = host.address? := by
  cases host with
  | name text => cases h
  | ipv4 x => rfl
  | ipv6 x => rfl

/-- The port of a URL of a web server: 80 or 443 if none is written. -/
theorem port?_of_isWeb {u : Url} (hweb : u.isWeb = true) :
    u.port? = some ((u.authority.bind (·.port)).getD (if u.scheme = "https" then 443 else 80)) := by
  rw [Url.port?]
  cases u.authority.bind (·.port) with
  | some port => rfl
  | none =>
    rw [Url.isWeb, Bool.or_eq_true, decide_eq_true_eq, decide_eq_true_eq] at hweb
    rcases hweb with hweb | hweb <;> rw [hweb] <;> decide

/-- A service is at the address and the port of its URL, and so is all that is put below it. -/
theorem endpoint?_of_parse {url : String} {u : Url} {host : Url.Host} {address : IpAddress}
    (h : Url.parse url = .ok u) (hweb : u.isWeb = true) (hhost : u.host? = some host)
    (haddr : host.address? = some address) :
    ∃ e, u.endpoint? = some e ∧ serviceEndpoint? url = some e ∧
      ∃ base, parseBase url = .ok base ∧
        ∀ place, ∃ v, below base place = .ok v ∧ v.endpoint? = some e := by
  have haddress : host.address?.isSome := by rw [haddr]; rfl
  obtain ⟨base, hparse, hbase, hscheme, hauthority, -⟩ := parseBase_of_parse h hweb
  obtain ⟨port, hport⟩ : ∃ port, u.port? = some port := ⟨_, port?_of_isWeb hweb⟩
  have hweb' : base.isWeb = true := by
    rw [← hweb, Url.isWeb, Url.isWeb, hscheme]
  have hhost' : base.host? = some host := by
    rw [← hhost, Url.host?, Url.host?, hauthority]
  have hport' : base.port? = some port := by
    rw [← hport, Url.port?, Url.port?, hauthority, hscheme]
  refine ⟨⟨address, port, 0⟩, ?_, ?_, base, hbase, fun place => ?_⟩
  · simp [Url.endpoint?, hhost, haddr, hport]
  · rw [serviceEndpoint?, hbase]
    simp [Except.toOption, hhost', hport', addressOf?_eq haddress, haddr]
  · obtain ⟨v, hv, -, hvhost, hvport, -⟩ := below_of_parse hparse hweb' place
    refine ⟨v, hv, ?_⟩
    rw [Url.endpoint?, hvhost, hvport, hhost', hport']
    simp [haddr]

end Sink

end FlowAudit
