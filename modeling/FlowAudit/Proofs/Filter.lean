import Mathlib.Data.Nat.Find
import FlowAudit.Filter
import FlowAudit.Proofs.Net.Notation

/-!
# Which events the rules leave out

`Filter.LeavesOut` says when a rule is in use and applies to an event, each rule by itself. An event
is dropped if and only if some rule leaves it out, and for the first rule that does
(`Filter.verdict_eq_drop_iff`). Hence no rule and no further endpoint brings an event back, and
nothing counts but the process, the ports and the canonical form of the destination, with the
canonical forms of the agent's own endpoints (`Filter.verdict_of_rules`).
-/

namespace FlowAudit

/-- The place of a rule in the order of the rules. -/
def DropReason.rank : DropReason → Nat
  | nonProcess => 0
  | dns => 1
  | selfTraffic => 2

/-- Events that the rules cannot tell apart: of the same process or of none, between the same ports,
and to the same destination, in whatever form its address is written. -/
structure Event.Alike (e e' : Event) : Prop where
  attribution : e.resolution.attribution = e'.resolution.attribution
  sourcePort : e.connection.sourcePort = e'.connection.sourcePort
  destinationPort : e.connection.destinationPort = e'.connection.destinationPort
  destination : e.connection.destinationAddress.canonical =
    e'.connection.destinationAddress.canonical

theorem Event.Alike.symm {e e' : Event} (h : e.Alike e') : e'.Alike e :=
  ⟨h.attribution.symm, h.sourcePort.symm, h.destinationPort.symm, h.destination.symm⟩

namespace Filter

/-! ### The rules one by one -/

/-- Whether a rule is in use. -/
def uses (f : Filter) : DropReason → Bool
  | .nonProcess => f.rules.nonProcess
  | .dns => f.rules.dns
  | .selfTraffic => f.rules.selfTraffic

/-- A rule applies to an event. -/
inductive Applies (f : Filter) (e : Event) : DropReason → Prop
  /-- No process is known, and the destination is a group, the broadcast address or no address. -/
  | nonProcess (hnone : e.resolution.attribution = none)
    (hplace : e.connection.destinationAddress.canonical.isMulticast = true ∨
      e.connection.destinationAddress.canonical = .v4 .broadcast ∨
      e.connection.destinationAddress.canonical.isUnspecified = true) : Applies f e .nonProcess
  /-- One of the ports is one of name lookups. -/
  | dns (hport : ∃ port ∈ [e.connection.sourcePort, e.connection.destinationPort],
      port = 53 ∨ port = 5353) : Applies f e .dns
  /-- The process is the agent. -/
  | agent {a : Attribution} (ha : e.resolution.attribution = some a) (hpid : a.pid = f.agentPid) :
    Applies f e .selfTraffic
  /-- No process is known, and the destination is one of the agent's endpoints. -/
  | endpoint {place : Endpoint} (hnone : e.resolution.attribution = none)
    (hplace : place ∈ f.sinkEndpoints)
    (haddress : place.address.canonical = e.connection.destinationAddress.canonical)
    (hport : place.port = e.connection.destinationPort) : Applies f e .selfTraffic

/-- A rule that is in use applies to an event. -/
structure LeavesOut (f : Filter) (e : Event) (r : DropReason) : Prop where
  uses : f.uses r = true
  applies : f.Applies e r

variable {f g : Filter} {e e' : Event} {r : DropReason}

theorem applies_nonProcess_iff : f.Applies e .nonProcess ↔ isNonProcess e = true := by
  have hbroadcast (x : IpAddress) : x.isBroadcast = true ↔ x = .v4 .broadcast := by
    cases x <;> simp [IpAddress.isBroadcast]
  have hplace : e.connection.destinationAddress.isUnicast = false ↔
      e.connection.destinationAddress.canonical.isMulticast = true ∨
        e.connection.destinationAddress.canonical = .v4 .broadcast ∨
        e.connection.destinationAddress.canonical.isUnspecified = true := by
    simp only [IpAddress.isUnicast, Bool.not_eq_false', Bool.or_eq_true, or_assoc, hbroadcast]
  rw [isNonProcess, Bool.and_eq_true, Option.isNone_iff_eq_none, Bool.not_eq_true', hplace]
  constructor
  · intro h
    cases h with
    | nonProcess hnone h => exact ⟨hnone, h⟩
  · rintro ⟨hnone, h⟩
    exact .nonProcess hnone h

theorem applies_dns_iff : f.Applies e .dns ↔ isDns e.connection = true := by
  have hports (port : Port) : dnsPorts.contains port = true ↔ port = 53 ∨ port = 5353 := by
    simp [dnsPorts]
  rw [isDns, Bool.or_eq_true, hports, hports]
  constructor
  · intro h
    cases h with
    | dns hport => simpa using hport
  · intro h
    exact .dns (by simpa using h)

theorem applies_selfTraffic_iff : f.Applies e .selfTraffic ↔ f.isSelfTraffic e = true := by
  unfold isSelfTraffic
  cases ha : e.resolution.attribution with
  | some a =>
    rw [decide_eq_true_eq]
    constructor
    · intro h
      cases h with
      | agent ha' hpid =>
        obtain rfl := Option.some.inj (ha.symm.trans ha')
        exact hpid
      | endpoint hnone => cases ha.symm.trans hnone
    · exact .agent ha
  | none =>
    simp only [List.any_eq_true, Endpoint.samePlace, Connection.destination, Bool.and_eq_true,
      decide_eq_true_eq]
    constructor
    · intro h
      cases h with
      | agent ha' => cases ha.symm.trans ha'
      | endpoint _ hplace haddress hport => exact ⟨_, hplace, hport.symm, haddress.symm⟩
    · rintro ⟨place, hplace, hport, haddress⟩
      exact .endpoint ha hplace haddress.symm hport.symm

/-! ### The verdict -/

theorem leavesOut_iff : f.LeavesOut e r ↔ f.uses r = true ∧ f.Applies e r :=
  ⟨fun h => ⟨h.uses, h.applies⟩, fun h => ⟨h.1, h.2⟩⟩

/-- An event is dropped for the first rule that leaves it out. -/
theorem verdict_eq_drop_iff : f.verdict e = .drop r ↔
    f.LeavesOut e r ∧ ∀ s, s.rank < r.rank → ¬ f.LeavesOut e s := by
  have hnonProcess : f.LeavesOut e .nonProcess ↔ (f.rules.nonProcess && isNonProcess e) = true := by
    rw [leavesOut_iff, applies_nonProcess_iff, Bool.and_eq_true]
    rfl
  have hdns : f.LeavesOut e .dns ↔ (f.rules.dns && isDns e.connection) = true := by
    rw [leavesOut_iff, applies_dns_iff, Bool.and_eq_true]
    rfl
  have hself : f.LeavesOut e .selfTraffic ↔ (f.rules.selfTraffic && f.isSelfTraffic e) = true := by
    rw [leavesOut_iff, applies_selfTraffic_iff, Bool.and_eq_true]
    rfl
  have hfirst : (∀ s, s.rank < r.rank → ¬ f.LeavesOut e s) ↔
      (0 < r.rank → ¬ f.LeavesOut e .nonProcess) ∧ (1 < r.rank → ¬ f.LeavesOut e .dns) ∧
        (2 < r.rank → ¬ f.LeavesOut e .selfTraffic) :=
    ⟨fun h => ⟨h .nonProcess, h .dns, h .selfTraffic⟩,
      fun ⟨h₀, h₁, h₂⟩ s => by cases s <;> assumption⟩
  rw [hfirst, hnonProcess, hdns, hself]
  unfold verdict
  split_ifs with h₀ h₁ h₂ <;> cases r <;> simp_all [DropReason.rank]

/-- Of the rules that leave an event out, one is the first. -/
theorem LeavesOut.exists_verdict (h : f.LeavesOut e r) :
    ∃ s, s.rank ≤ r.rank ∧ f.verdict e = .drop s := by
  classical
  -- the least rank of a rule that leaves the event out
  have hrank : ∃ n s, s.rank = n ∧ f.LeavesOut e s := ⟨r.rank, r, rfl, h⟩
  obtain ⟨s, hs, hleaves⟩ := Nat.find_spec hrank
  refine ⟨s, hs ▸ Nat.find_min' hrank ⟨r, rfl, h⟩, ?_⟩
  rw [verdict_eq_drop_iff]
  exact ⟨hleaves, fun t ht hlater => Nat.find_min hrank (hs ▸ ht) ⟨t, rfl, hlater⟩⟩

theorem exists_verdict_iff : (∃ r, f.verdict e = .drop r) ↔ ∃ r, f.LeavesOut e r := by
  constructor
  · rintro ⟨r, hr⟩
    exact ⟨r, (verdict_eq_drop_iff.mp hr).1⟩
  · rintro ⟨r, hr⟩
    obtain ⟨s, -, hs⟩ := hr.exists_verdict
    exact ⟨s, hs⟩

theorem not_leavesOut_of_keep (h : f.verdict e = .keep) (r : DropReason) : ¬ f.LeavesOut e r := by
  intro hr
  obtain ⟨s, -, hs⟩ := hr.exists_verdict
  cases h.symm.trans hs

/-- The verdict is told by the rules that leave an event out. -/
theorem verdict_eq_of_leavesOut_iff (h : ∀ r, f.LeavesOut e r ↔ g.LeavesOut e' r) :
    f.verdict e = g.verdict e' := by
  have hdrop (r : DropReason) : f.verdict e = .drop r ↔ g.verdict e' = .drop r := by
    simp only [verdict_eq_drop_iff, h]
  cases hverdict : f.verdict e with
  | drop r => exact ((hdrop r).mp hverdict).symm
  | keep =>
    cases hverdict' : g.verdict e' with
    | keep => rfl
    | drop r =>
      rw [(hdrop r).mpr hverdict'] at hverdict
      cases hverdict

/-! ### More rules and endpoints -/

/-- A filter that uses all the rules of another one, and perhaps more of them, and knows all its
endpoints, and perhaps more of them. -/
structure Within (f g : Filter) : Prop where
  uses : ∀ r, f.uses r = true → g.uses r = true
  agentPid : f.agentPid = g.agentPid
  sinkEndpoints : f.sinkEndpoints ⊆ g.sinkEndpoints

theorem LeavesOut.mono (h : f.LeavesOut e r) (hfg : f.Within g) : g.LeavesOut e r := by
  refine ⟨hfg.uses r h.uses, ?_⟩
  cases h.applies with
  | nonProcess hnone hplace => exact .nonProcess hnone hplace
  | dns hport => exact .dns hport
  | agent ha hpid => exact .agent ha (hpid.trans hfg.agentPid)
  | endpoint hnone hplace haddress hport =>
    exact .endpoint hnone (hfg.sinkEndpoints hplace) haddress hport

/-! ### Forms of addresses -/

theorem LeavesOut.alike (h : f.LeavesOut e r) (he : e.Alike e') : f.LeavesOut e' r := by
  refine ⟨h.uses, ?_⟩
  cases h.applies with
  | nonProcess hnone hplace =>
    rw [he.destination] at hplace
    exact .nonProcess (he.attribution ▸ hnone) hplace
  | dns hport =>
    rw [he.sourcePort, he.destinationPort] at hport
    exact .dns hport
  | agent ha hpid => exact .agent (he.attribution ▸ ha) hpid
  | endpoint hnone hplace haddress hport =>
    exact .endpoint (he.attribution ▸ hnone) hplace (haddress.trans he.destination)
      (hport.trans he.destinationPort)

/-- Endpoints count by their canonical forms. -/
theorem LeavesOut.withEndpoints {places : List Endpoint} (h : f.LeavesOut e r)
    (hplaces : f.sinkEndpoints.map Endpoint.canonical ⊆ places.map Endpoint.canonical) :
    ({ f with sinkEndpoints := places } : Filter).LeavesOut e r := by
  have huses : ({ f with sinkEndpoints := places } : Filter).uses r = true := by
    cases r <;> exact h.uses
  refine ⟨huses, ?_⟩
  cases h.applies with
  | nonProcess hnone hplace => exact .nonProcess hnone hplace
  | dns hport => exact .dns hport
  | agent ha hpid => exact .agent ha hpid
  | @endpoint place hnone hplace haddress hport =>
    obtain ⟨place', hplace', hcanonical⟩ :=
      List.mem_map.mp (hplaces (List.mem_map_of_mem hplace))
    obtain ⟨haddress', hport', -⟩ := Endpoint.mk.inj hcanonical
    exact .endpoint hnone hplace' (haddress'.trans haddress) (hport'.trans hport)

/-- An event is dropped if and only if a rule that is in use applies to it, and for the first rule
that does. Further rules and endpoints drop it still, and for no later rule. The verdict does not
change with the phase of the event, nor with the form of the destination, nor with the order and the
forms in which the agent's endpoints are listed; an address and its mapped form are two forms of the
same. -/
theorem verdict_of_rules (f : Filter) (e : Event) :
    ((∃ r, f.verdict e = .drop r) ↔ ∃ r, f.LeavesOut e r) ∧
    (∀ r, f.verdict e = .drop r ↔
      f.LeavesOut e r ∧ ∀ s, s.rank < r.rank → ¬ f.LeavesOut e s) ∧
    (∀ g, f.Within g → ∀ r, f.verdict e = .drop r →
      ∃ s, s.rank ≤ r.rank ∧ g.verdict e = .drop s) ∧
    (∀ e', e.Alike e' → f.verdict e' = f.verdict e) ∧
    (∀ places, (places.map Endpoint.canonical).Perm (f.sinkEndpoints.map Endpoint.canonical) →
      ({ f with sinkEndpoints := places } : Filter).verdict e = f.verdict e) ∧
    ∀ y : Ipv4, (IpAddress.v6 y.toMapped).canonical = (IpAddress.v4 y).canonical := by
  refine ⟨exists_verdict_iff, fun r => verdict_eq_drop_iff, ?_, ?_, ?_,
    IpAddress.canonical_toMapped⟩
  · intro g hfg r hr
    exact ((verdict_eq_drop_iff.mp hr).1.mono hfg).exists_verdict
  · intro e' he
    exact verdict_eq_of_leavesOut_iff fun r => ⟨fun h => h.alike he.symm, fun h => h.alike he⟩
  · intro places hplaces
    refine verdict_eq_of_leavesOut_iff fun r => ⟨fun h => ?_, fun h => ?_⟩
    · exact h.withEndpoints hplaces.subset
    · exact h.withEndpoints hplaces.symm.subset

/-- A name lookup by no known process, from the port of such lookups to the address `x`. -/
def lookupAt (x : IpAddress) : Event where
  connection := ⟨.udp, .v4 ⟨10, 0, 0, 1⟩, 5353, x, 5353⟩
  phase := .opened
  hash := default
  id := default
  timestamp := default
  observedAt := 0
  resolution := .unresolved

/-- The group of lookups in the local network. -/
def lookupGroup : Ipv4 := ⟨224, 0, 0, 251⟩

/-- A filter that uses the given rules and takes the group for an endpoint of the agent. -/
def lookupFilter (rules : FilterRules) : Filter :=
  ⟨rules, 7, [⟨.v4 lookupGroup, 5353, 0⟩]⟩

/-- All three rules apply to a lookup in the mapped form of the group. It is dropped for the last
of them when only this one is in use, and for the first one when all of them are. -/
theorem verdict_lookupAt :
    (lookupFilter ⟨false, false, true⟩).verdict (lookupAt (.v6 lookupGroup.toMapped)) =
        .drop .selfTraffic ∧
      (lookupFilter ⟨false, false, true⟩).Within (lookupFilter ⟨true, true, true⟩) ∧
      (lookupFilter ⟨true, true, true⟩).verdict (lookupAt (.v6 lookupGroup.toMapped)) =
        .drop .nonProcess ∧
      (lookupAt (.v6 lookupGroup.toMapped)).Alike (lookupAt (.v4 lookupGroup)) ∧
      (lookupFilter ⟨true, true, true⟩).verdict (lookupAt (.v4 lookupGroup)) =
        .drop .nonProcess := by
  have hself : (lookupFilter ⟨false, false, true⟩).verdict
      (lookupAt (.v6 lookupGroup.toMapped)) = .drop .selfTraffic := by decide
  have hwithin : (lookupFilter ⟨false, false, true⟩).Within (lookupFilter ⟨true, true, true⟩) :=
    ⟨fun r _ => by cases r <;> rfl, rfl, fun _ h => h⟩
  have halike : (lookupAt (.v6 lookupGroup.toMapped)).Alike (lookupAt (.v4 lookupGroup)) :=
    ⟨rfl, rfl, rfl, IpAddress.canonical_toMapped _⟩
  obtain ⟨-, hfirst, -, hforms, -⟩ :=
    verdict_of_rules (lookupFilter ⟨true, true, true⟩) (lookupAt (.v6 lookupGroup.toMapped))
  have hgroup : (lookupFilter ⟨true, true, true⟩).LeavesOut
      (lookupAt (.v6 lookupGroup.toMapped)) .nonProcess :=
    ⟨rfl, .nonProcess rfl (.inl (by decide))⟩
  have hdropped := (hfirst .nonProcess).mpr ⟨hgroup, fun s hs => absurd hs (Nat.not_lt_zero _)⟩
  exact ⟨hself, hwithin, hdropped, halike, (hforms _ halike).trans hdropped⟩

end Filter

end FlowAudit
