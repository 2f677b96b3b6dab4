import FlowAudit.Configuration.Load
import FlowAudit.Proofs.Net.Endpoint

/-!
# What a configuration holds when it was read from a text

Reading follows aliases and counts them, so a node may be read in one place and refused in another.
`Yaml.Decode.Yields` says only that a value can come out of a step, whatever was read before; that is
enough to tell that each target of a configuration was put together from the texts of its fields
(`Configuration.exists_ofFields?_of_ofYaml?`), and so names a scope only with an IPv6 address
(`Configuration.scopeFits_of_ofYaml?`).
-/

namespace FlowAudit

/-! ### Steps that read nodes -/

namespace Yaml.Decode

variable {α β : Type}

/-- Whether a step can give `a`: it does so in some document, with some number of aliases followed
before. -/
def Yields (x : Decode α) (a : α) : Prop :=
  ∃ (d : Document) (followed followed' : Nat), (x.run d).run followed = some (a, followed')

theorem Yields.of_bind {x : Decode α} {f : α → Decode β} {b : β} (h : Yields (x >>= f) b) :
    ∃ a, Yields x a ∧ Yields (f a) b := by
  obtain ⟨d, followed, followed', h⟩ := h
  rw [ReaderT.run_bind, StateT.run_bind] at h
  obtain ⟨⟨a, between⟩, hx, hf⟩ := Option.bind_eq_some_iff.mp h
  exact ⟨a, ⟨d, followed, between, hx⟩, d, between, followed', hf⟩

theorem Yields.eq_of_pure {a b : α} (h : Yields (pure a) b) : b = a := by
  obtain ⟨d, followed, followed', h⟩ := h
  rw [ReaderT.run_pure, StateT.run_pure] at h
  exact (Prod.mk.inj (Option.some.inj h)).1.symm

theorem not_yields_failure {a : α} : ¬Yields failure a := by
  rintro ⟨d, followed, followed', h⟩
  cases h

/-- What comes out of steps for the items of a list comes out of a step for one of them. -/
theorem Yields.exists_of_mapM {γ : Type} {f : γ → Decode α} {ns : List γ} {as : List α}
    (h : Yields (ns.mapM f) as) : ∀ a ∈ as, ∃ n ∈ ns, Yields (f n) a := by
  induction ns generalizing as with
  | nil =>
    rw [List.mapM_nil] at h
    rw [h.eq_of_pure]
    exact nofun
  | cons n ns ih =>
    rw [List.mapM_cons] at h
    obtain ⟨a, ha, h⟩ := h.of_bind
    obtain ⟨rest, hrest, h⟩ := h.of_bind
    rw [h.eq_of_pure, List.forall_mem_cons]
    refine ⟨⟨n, List.mem_cons_self, ha⟩, fun b hb => ?_⟩
    obtain ⟨m, hm, hyields⟩ := ih hrest b hb
    exact ⟨m, List.mem_cons_of_mem n hm, hyields⟩

end Yaml.Decode

open Yaml.Decode (Yields)

/-! ### Targets -/

namespace SinkTarget

/-- Whether a scope is named only with an IPv6 address, as far as there is an address. -/
def ScopeFits : SinkTarget → Prop
  | .syslogTcp address | .syslogUdp address => address.ScopeFits
  | _ => True

theorem scopeFits_of_ofFields? {kind : SinkKind} {values : List (Option String)} {t : SinkTarget}
    (h : ofFields? kind values = some t) : t.ScopeFits := by
  unfold ofFields? at h
  split at h
  case h_4 | h_5 =>
    obtain ⟨e, hparse, rfl⟩ := Option.map_eq_some_iff.mp h
    exact Endpoint.scopeFits_of_parse? hparse
  case h_8 => cases h
  all_goals
    obtain rfl := Option.some.inj h
    exact trivial

/-- A target that was written comes from the texts in the fields of its kind. -/
theorem exists_ofFields?_of_ofForm? {form : Form} {t : SinkTarget} (h : ofForm? form = some t) :
    ∃ kind values, ofFields? kind values = some t := by
  unfold ofForm? at h
  split at h
  · dsimp only at h
    split at h
    · obtain ⟨kind, -, h⟩ := Option.bind_eq_some_iff.mp h
      obtain ⟨values, -, h⟩ := Option.bind_eq_some_iff.mp h
      exact ⟨kind, values, h⟩
    · cases h
  · rename_i values
    obtain ⟨kind, -, h⟩ := Option.bind_eq_some_iff.mp h
    split at h
    · exact ⟨kind, values, h⟩
    · cases h
  · cases h

theorem exists_ofFields?_of_yields {n : Yaml.Node} {t : SinkTarget} (h : Yields (decode n) t) :
    ∃ kind values, ofFields? kind values = some t := by
  obtain ⟨form, -, h⟩ := h.of_bind
  split at h
  · rename_i t' hform
    rw [h.eq_of_pure]
    exact exists_ofFields?_of_ofForm? hform
  · exact (Yaml.Decode.not_yields_failure h).elim

end SinkTarget

/-! ### Configurations -/

namespace Configuration

/-- The targets of settings come out of the steps for their nodes. -/
theorem exists_yields_of_yields {root : Yaml.Node} {c : Configuration} (h : Yields (decode root) c) :
    ∀ t ∈ c.sinks, ∃ n, Yields (SinkTarget.decode n) t := by
  obtain ⟨values, -, h⟩ := h.of_bind
  split at h
  · rename_i agent filters sinks source resolver correlator dispatch
    obtain ⟨_, -, h⟩ := h.of_bind
    obtain ⟨_, -, h⟩ := h.of_bind
    obtain ⟨targets, htargets, h⟩ := h.of_bind
    obtain ⟨_, -, h⟩ := h.of_bind
    obtain ⟨_, -, h⟩ := h.of_bind
    obtain ⟨_, -, h⟩ := h.of_bind
    obtain ⟨_, -, h⟩ := h.of_bind
    rw [h.eq_of_pure]
    cases sinks with
    | none =>
      rw [htargets.eq_of_pure]
      exact nofun
    | some n =>
      obtain ⟨ns, -, hitems⟩ := htargets.of_bind
      intro t ht
      obtain ⟨m, -, hyields⟩ := hitems.exists_of_mapM t ht
      exact ⟨m, hyields⟩
  · exact (Yaml.Decode.not_yields_failure h).elim

/-- Each target that was read comes from the texts in the fields of its kind. -/
theorem exists_ofFields?_of_ofYaml? {text : String} {c : Configuration} (h : ofYaml? text = some c) :
    ∀ t ∈ c.sinks, ∃ kind values, SinkTarget.ofFields? kind values = some t := by
  obtain ⟨document, -, h⟩ := Option.bind_eq_some_iff.mp h
  split at h
  · obtain rfl := Option.some.inj h
    exact nofun
  · rename_i root hroot
    obtain ⟨⟨c', followed⟩, hrun, heq⟩ := Option.bind_eq_some_iff.mp h
    obtain rfl := Option.some.inj heq
    intro t ht
    obtain ⟨n, hyields⟩ := exists_yields_of_yields ⟨document, 0, followed, hrun⟩ t ht
    exact SinkTarget.exists_ofFields?_of_yields hyields

/-- A target that was read names a scope only with an IPv6 address. -/
theorem scopeFits_of_ofYaml? {text : String} {c : Configuration} (h : ofYaml? text = some c) :
    ∀ t ∈ c.sinks, t.ScopeFits := by
  intro t ht
  obtain ⟨kind, values, hfields⟩ := exists_ofFields?_of_ofYaml? h t ht
  exact SinkTarget.scopeFits_of_ofFields? hfields

/-- A configuration that was taken from a text was read from it and passed its check. -/
theorem parse_eq_ok {text : String} {origin : Path} {c : Configuration}
    (h : parse text origin = .ok c) : ofYaml? text = some c ∧ c.check = .ok () := by
  unfold parse at h
  split at h
  · rename_i c' hread
    unfold checked at h
    split at h
    · rename_i hcheck
      obtain rfl := Except.ok.inj h
      exact ⟨hread, hcheck⟩
    · cases h
  · cases h

end Configuration

end FlowAudit
