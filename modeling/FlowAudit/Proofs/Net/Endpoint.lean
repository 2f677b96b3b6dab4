import FlowAudit.Net.Endpoint
import FlowAudit.Proofs.Net.Notation

/-!
# The text forms of endpoints

An endpoint that was read names a scope only for an IPv6 address (`scopeFits_of_parse?`), and then
no two endpoints have the same text form (`render_inj`): the port stands behind the first colon, or
behind the bracket, and the scope behind a mark that no address holds.
-/

namespace FlowAudit

namespace Endpoint

/-- Whether a scope is named only for an IPv6 address. -/
def ScopeFits (e : Endpoint) : Prop :=
  e.scope = 0 ∨ ∃ x, e.address = .v6 x

/-- An endpoint that was read names a scope only for an IPv6 address. -/
theorem scopeFits_of_parse? {s : List Char} {e : Endpoint} (h : parse? s = some e) :
    e.ScopeFits := by
  obtain ⟨⟨⟨address, scope⟩, rest⟩, haddress, hrest⟩ := Option.bind_eq_some_iff.mp h
  obtain ⟨digits, -, hdigits⟩ := Option.bind_eq_some_iff.mp hrest
  obtain ⟨⟨port, rest'⟩, -, hend⟩ := Option.bind_eq_some_iff.mp hdigits
  dsimp only at hend
  split at hend
  · obtain rfl := Option.some.inj hend
    unfold readAddress? at haddress
    split at haddress
    · obtain ⟨⟨x, t⟩, -, hscope⟩ := Option.bind_eq_some_iff.mp haddress
      obtain ⟨t', -, heq⟩ := Option.bind_eq_some_iff.mp hscope
      obtain ⟨heq, -⟩ := Prod.mk.inj (Option.some.inj heq)
      exact .inr ⟨x, (Prod.mk.inj heq).1.symm⟩
    · obtain ⟨⟨x, t⟩, -, heq⟩ := Option.bind_eq_some_iff.mp haddress
      obtain ⟨heq, -⟩ := Prod.mk.inj (Option.some.inj heq)
      exact .inl (Prod.mk.inj heq).2.symm
  · cases hend

/-- What is written of a scope behind an IPv6 address. -/
def scopeText (scope : UInt32) : String :=
  if scope = 0 then "" else "%" ++ toString scope.toNat

theorem toList_render_v4 (x : Ipv4) (port : Port) (scope : UInt32) :
    (render ⟨.v4 x, port, scope⟩).toList =
      (IpAddress.v4 x).render.toList ++ ':' :: (toString port.toNat).toList := by
  simp [render, IpAddress.render]

theorem toList_render_v6 (x : Ipv6) (port : Port) (scope : UInt32) :
    (render ⟨.v6 x, port, scope⟩).toList =
      '[' :: ((IpAddress.v6 x).render.toList ++ (scopeText scope).toList) ++
        ']' :: ':' :: (toString port.toNat).toList := by
  simp [render, IpAddress.render, scopeText]

theorem address_inj {x y : IpAddress} (h : x.render.toList = y.render.toList) : x = y := by
  have hread := IpAddress.parse?_render x
  rw [h, IpAddress.parse?_render] at hread
  exact (Option.some.inj hread).symm

theorem notMem_render {mark : Char} (hmark : ".:0123456789abcdefABCDEF".toList.Forall (· ≠ mark))
    (x : IpAddress) : mark ∉ x.render.toList := fun hmem =>
  IpAddress.of_mem_render hmark hmem rfl

theorem notMem_v4 (x : Ipv4) : ':' ∉ (IpAddress.v4 x).render.toList := by
  rw [IpAddress.render, Ipv4.toList_render]
  exact fun hmem => Ipv4.of_mem_chars (p := (· ≠ ':')) (by decide) hmem rfl

theorem notMem_scopeText (scope : UInt32) : ']' ∉ (scopeText scope).toList := by
  rw [scopeText]
  split
  · simp
  · rw [String.toList_append, List.mem_append, not_or]
    refine ⟨by decide, fun hmem => ?_⟩
    exact absurd (Ipv4.isDigit_of_mem_toString hmem) (by decide)

/-- An address and its scope are told by their text, since no address holds the mark of a scope. -/
theorem scopeText_inj {x y : IpAddress} {scope scope' : UInt32}
    (h : x.render.toList ++ (scopeText scope).toList =
      y.render.toList ++ (scopeText scope').toList) : x = y ∧ scope = scope' := by
  have hmark (z : IpAddress) : '%' ∉ z.render.toList := notMem_render (by decide) z
  have hnone (z w : IpAddress) (scope : UInt32)
      (h : z.render.toList = w.render.toList ++ '%' :: (toString scope.toNat).toList) : False :=
    hmark z (by rw [h]; simp)
  unfold scopeText at h
  split at h <;> split at h <;> rename_i hscope hscope'
  · rw [hscope, hscope']
    exact ⟨address_inj (by simpa using h), rfl⟩
  · exact (hnone x y scope' (by simpa using h)).elim
  · exact (hnone y x scope (by simpa using h.symm)).elim
  · have h' : x.render.toList ++ '%' :: (toString scope.toNat).toList =
        y.render.toList ++ '%' :: (toString scope'.toNat).toList := by
      simpa using h
    obtain ⟨haddress, hdigits⟩ := (Text.append_cons_inj (hmark x) (hmark y)).mp h'
    exact ⟨address_inj haddress, UInt32.toNat_inj.mp (Text.toString_inj.mp hdigits)⟩

/-- The text form of an IPv4 endpoint does not start with a bracket. -/
theorem render_v4_ne_v6 (x : Ipv4) (y : Ipv6) (port port' : Port) (scope scope' : UInt32) :
    (render ⟨.v4 x, port, scope⟩).toList ≠ (render ⟨.v6 y, port', scope'⟩).toList := by
  rw [toList_render_v4, toList_render_v6]
  intro h
  have hbracket : '[' ∉ (IpAddress.v4 x).render.toList := notMem_render (by decide) _
  cases hx : (IpAddress.v4 x).render.toList with
  | nil =>
    rw [hx] at h
    exact absurd (List.cons.inj h).1 (by decide)
  | cons c cs =>
    rw [hx] at h hbracket
    obtain rfl : c = '[' := (List.cons.inj h).1
    exact hbracket List.mem_cons_self

/-- Endpoints that name scopes only for IPv6 addresses have text forms of their own. -/
theorem render_inj {e f : Endpoint} (he : e.ScopeFits) (hf : f.ScopeFits)
    (h : e.render = f.render) : e = f := by
  have hport {port port' : Port}
      (h : (toString port.toNat).toList = (toString port'.toNat).toList) : port = port' :=
    UInt16.toNat_inj.mp (Text.toString_inj.mp h)
  obtain ⟨address, port, scope⟩ := e
  obtain ⟨address', port', scope'⟩ := f
  have h' := congrArg String.toList h
  cases address with
  | v4 x =>
    obtain rfl : scope = 0 := he.resolve_right nofun
    cases address' with
    | v4 y =>
      obtain rfl : scope' = 0 := hf.resolve_right nofun
      rw [toList_render_v4, toList_render_v4,
        Text.append_cons_inj (notMem_v4 x) (notMem_v4 y)] at h'
      rw [address_inj h'.1, hport h'.2]
    | v6 y => exact (render_v4_ne_v6 x y port port' 0 scope' h').elim
  | v6 x =>
    cases address' with
    | v4 y => exact (render_v4_ne_v6 y x port' port scope' scope h'.symm).elim
    | v6 y =>
      have hfront (z : Ipv6) (scope : UInt32) :
          ']' ∉ (IpAddress.v6 z).render.toList ++ (scopeText scope).toList := by
        rw [List.mem_append, not_or]
        exact ⟨notMem_render (by decide) _, notMem_scopeText scope⟩
      rw [toList_render_v6, toList_render_v6, List.cons_append, List.cons_append,
        List.cons.injEq, Text.append_cons_inj (hfront x scope) (hfront y scope'),
        List.cons.injEq] at h'
      obtain ⟨-, hscope, -, hdigits⟩ := h'
      obtain ⟨haddress, hscope⟩ := scopeText_inj hscope
      rw [haddress, hscope, hport hdigits]

end Endpoint

end FlowAudit
