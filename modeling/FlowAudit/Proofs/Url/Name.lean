import FlowAudit.Proofs.Url.Host
import FlowAudit.Proofs.Url.Punycode

/-!
# Domain names read back

A name in the form in which it is looked up is read as itself (`Idna.toAscii?_toAscii?`): its labels
stand for the labels that were checked before (`Idna.decodeLabel?_encodeLabel`). So every host under
a special scheme is read back from its text form (`Host.isStable_of_parseSpecial`).
-/

namespace FlowAudit

namespace Idna

open Unicode (isAscii)

/-! ### Labels -/

theorem labels_ofLabels {ls : List (List Char)} (hne : ls ≠ []) (hls : ∀ l ∈ ls, '.' ∉ l) :
    labels (ofLabels ls) = ls := by
  induction ls with
  | nil => exact absurd rfl hne
  | cons l ls ih =>
    rw [List.forall_mem_cons] at hls
    cases ls with
    | nil =>
      have hsingle : ofLabels [l] = l := by simp [ofLabels, List.intercalate]
      rw [hsingle, labels, labelsFrom_of_notMem hls.1]
      rfl
    | cons l' ls =>
      have hcons : ofLabels (l :: l' :: ls) = l ++ '.' :: ofLabels (l' :: ls) := by
        simp [ofLabels, List.intercalate]
      have hrest := ih (List.cons_ne_nil l' ls) hls.2
      rw [labels] at hrest
      rw [hcons, labels, labelsFrom_append hls.1, hrest]
      rfl

theorem mem_ofLabels {ls : List (List Char)} {c : Char} (hc : c ∈ ofLabels ls) :
    c = '.' ∨ ∃ l ∈ ls, c ∈ l := by
  induction ls with
  | nil => simp [ofLabels, List.intercalate] at hc
  | cons l ls ih =>
    cases ls with
    | nil => exact .inr ⟨l, List.mem_cons_self, by simpa [ofLabels, List.intercalate] using hc⟩
    | cons l' ls =>
      have hparts : c ∈ l ∨ c = '.' ∨ c ∈ ofLabels (l' :: ls) := by
        simpa [ofLabels, List.intercalate] using hc
      rcases hparts with hc | hc | hc
      · exact .inr ⟨l, List.mem_cons_self, hc⟩
      · exact .inl hc
      · exact (ih hc).imp_right fun ⟨k, hk, hmem⟩ => ⟨k, List.mem_cons_of_mem l hk, hmem⟩

theorem notMem_of_mem_labelsFrom {pending s l : List Char} (hpending : '.' ∉ pending)
    (hl : l ∈ labelsFrom pending s) : '.' ∉ l := by
  induction s generalizing pending with
  | nil =>
    rw [labelsFrom, List.mem_singleton] at hl
    rwa [hl, List.mem_reverse]
  | cons c s ih =>
    by_cases hc : c = '.'
    · subst hc
      rw [labelsFrom] at hl
      rcases List.mem_cons.mp hl with rfl | hl
      · rwa [List.mem_reverse]
      · exact ih List.not_mem_nil hl
    · rw [labelsFrom] at hl
      · exact ih (by simp [hpending, Ne.symm hc]) hl
      · exact hc

theorem labelsFrom_ne_nil (pending s : List Char) : labelsFrom pending s ≠ [] := by
  induction s generalizing pending with
  | nil => exact List.cons_ne_nil _ _
  | cons c s ih =>
    by_cases hc : c = '.'
    · subst hc
      exact List.cons_ne_nil _ _
    · rw [labelsFrom]
      · exact ih _
      · exact hc

/-- What a label of a name stands for is a label, and if it is one of ASCII it stands for itself. -/
theorem decodeLabel?_spec {label decoded : List Char} (h : decodeLabel? label = some decoded) :
    isLabel decoded = true ∧ ('.' ∈ decoded → '.' ∈ label) ∧
      (decoded.all isAscii = true → Text.after? punycodeMark decoded = none) := by
  unfold decodeLabel? at h
  split at h
  · rename_i hplain
    obtain ⟨hlabel, heq⟩ := Option.ite_none_right_eq_some.mp h
    obtain rfl := Option.some.inj heq
    exact ⟨hlabel, id, fun _ => hplain⟩
  · rename_i code hcode
    dsimp only at h
    split at h
    · rw [Option.bind_eq_bind, Option.bind_eq_some_iff] at h
      obtain ⟨decoded', hread, h⟩ := h
      obtain ⟨hgood, heq⟩ := Option.ite_none_left_eq_some.mp h
      obtain rfl := Option.some.inj heq
      rw [Bool.or_eq_true, not_or, Bool.not_eq_true', Bool.not_eq_false] at hgood
      refine ⟨hgood.2, fun hdot => ?_, fun hascii => absurd hascii hgood.1⟩
      rw [Text.after?_eq_some_iff.mp hcode]
      exact List.mem_append_right _ (Punycode.mem_of_decode? hread hdot (by decide))
    · cases h

/-- Whether a character may stand in a name that is looked up. -/
def IsNameChar (c : Char) : Prop :=
  isAscii c = true ∧ mapChar? c = some [c] ∧ isForbidden c = false

instance (c : Char) : Decidable (IsNameChar c) :=
  inferInstanceAs (Decidable (_ ∧ _))

theorem IsNameChar.ne {c d : Char} (hc : IsNameChar c) (hd : ¬ IsNameChar d) : c ≠ d :=
  fun h => hd (h ▸ hc)

/-- The labels of a name that was not refused. -/
structure IsName (ls : List (List Char)) : Prop where
  ne_nil : ls ≠ []
  isLabel : ∀ l ∈ ls, isLabel l = true
  notMem : ∀ l ∈ ls, '.' ∉ l
  /-- A label in Punycode stands for one that is not ASCII. -/
  after?_eq_none : ∀ l ∈ ls, l.all isAscii = true → Text.after? punycodeMark l = none
  allowed : ∀ l ∈ ls, ∀ c ∈ l, isForbidden c = false
  directionsFit : directionsFit ls = true

/-! ### Names in the form in which they are looked up -/

section Label

variable {l : List Char} (hlabel : isLabel l = true)
include hlabel

theorem mapChar?_of_mem_label : ∀ c ∈ l, mapChar? c = some [c] := by
  rw [isLabel, Bool.and_eq_true, List.all_eq_true] at hlabel
  exact fun c hc => of_decide_eq_true (hlabel.1 c hc)

/-- All characters of a label that is looked up may stand in a name, and none is a dot. -/
theorem isNameChar_of_mem_encodeLabel (hdot : '.' ∉ l) (hforbidden : ∀ c ∈ l, isForbidden c = false)
    {c : Char} (hc : c ∈ encodeLabel l) : IsNameChar c ∧ c ≠ '.' := by
  have hkept (d : Char) (hd : d ∈ l) (hascii : isAscii d = true) : IsNameChar d ∧ d ≠ '.' :=
    ⟨⟨hascii, mapChar?_of_mem_label hlabel d hd, hforbidden d hd⟩, fun h => hdot (h ▸ hd)⟩
  rw [encodeLabel] at hc
  split at hc
  · rename_i hascii
    exact hkept c hc (List.all_eq_true.mp hascii c hc)
  · rcases List.mem_append.mp hc with hc | hc
    · have hmark : punycodeMark.Forall fun c => IsNameChar c ∧ c ≠ '.' := by decide
      exact List.forall_iff_forall_mem.mp hmark c hc
    · rcases Punycode.mem_encode hc with ⟨hc, hlow⟩ | rfl | ⟨n, hn, rfl⟩
      · exact hkept c hc (decide_eq_true hlow)
      · decide
      · have hdigits : ∀ n < 36, IsNameChar (Punycode.digit n) ∧ Punycode.digit n ≠ '.' := by
          decide
        exact hdigits n hn

/-- A label that is looked up stands for the label that it was written for. -/
theorem decodeLabel?_encodeLabel
    (hafter : l.all isAscii = true → Text.after? punycodeMark l = none) :
    decodeLabel? (encodeLabel l) = some l := by
  rw [encodeLabel]
  split
  · rename_i hascii
    rw [decodeLabel?, hafter hascii]
    exact if_pos hlabel
  · rename_i hascii
    have hcode : (Punycode.encode l).all isAscii = true := by
      refine List.all_eq_true.mpr fun c hc => ?_
      rcases Punycode.mem_encode hc with ⟨-, hlow⟩ | rfl | ⟨n, hn, rfl⟩
      · exact decide_eq_true hlow
      · decide
      · have hdigits : ∀ n < 36, isAscii (Punycode.digit n) = true := by decide
        exact hdigits n hn
    have hmark : Text.after? punycodeMark (punycodeMark ++ Punycode.encode l) =
        some (Punycode.encode l) := Text.after?_eq_some_iff.mpr rfl
    rw [decodeLabel?, hmark]
    dsimp only
    rw [if_pos hcode, Punycode.decode?_encode, Option.bind_eq_bind, Option.bind_some, if_neg]
    simp [hascii, hlabel]

end Label

/-- What all labels of a list stand for. -/
theorem mapM_decodeLabel?_spec {ls decoded : List (List Char)}
    (h : ls.mapM decodeLabel? = some decoded) :
    decoded.length = ls.length ∧ ∀ d ∈ decoded, ∃ l ∈ ls, decodeLabel? l = some d := by
  induction ls generalizing decoded with
  | nil =>
    obtain rfl := Option.some.inj h
    exact ⟨rfl, List.forall_mem_nil _⟩
  | cons l ls ih =>
    rw [List.mapM_cons, Option.bind_eq_bind, Option.bind_eq_some_iff] at h
    obtain ⟨d, hd, h⟩ := h
    rw [Option.bind_eq_bind, Option.bind_eq_some_iff] at h
    obtain ⟨ds, hds, h⟩ := h
    obtain rfl := Option.some.inj h
    obtain ⟨hlength, hmem⟩ := ih hds
    refine ⟨congrArg (· + 1) hlength, List.forall_mem_cons.mpr ⟨⟨l, List.mem_cons_self, hd⟩, ?_⟩⟩
    intro d' hd'
    obtain ⟨l', hl', heq⟩ := hmem d' hd'
    exact ⟨l', List.mem_cons_of_mem l hl', heq⟩

/-- A name that is not refused is looked up by its labels. -/
theorem exists_isName {name out : List Char} (h : toAscii? name = some out) :
    ∃ ls, IsName ls ∧ out = ofLabels (ls.map encodeLabel) := by
  rw [toAscii?, Option.bind_eq_bind, Option.bind_eq_some_iff] at h
  obtain ⟨mapped, -, h⟩ := h
  obtain ⟨-, h⟩ := Option.ite_none_left_eq_some.mp h
  rw [Option.bind_eq_bind, Option.bind_eq_some_iff] at h
  obtain ⟨ls, hls, h⟩ := h
  obtain ⟨hgood, h⟩ := Option.ite_none_left_eq_some.mp h
  obtain ⟨hlength, hmem⟩ := mapM_decodeLabel?_spec hls
  rw [Bool.or_eq_true, not_or, Bool.not_eq_true', Bool.not_eq_false, List.any_eq_true] at hgood
  refine ⟨ls, ⟨?_, ?_, ?_, ?_, ?_, hgood.2⟩, (Option.some.inj h).symm⟩
  · rintro rfl
    exact labelsFrom_ne_nil [] _ (List.eq_nil_of_length_eq_zero hlength.symm)
  · intro l hl
    obtain ⟨label, -, hlabel⟩ := hmem l hl
    exact (decodeLabel?_spec hlabel).1
  · intro l hl hdot
    obtain ⟨label, hmem, hlabel⟩ := hmem l hl
    exact notMem_of_mem_labelsFrom List.not_mem_nil hmem ((decodeLabel?_spec hlabel).2.1 hdot)
  · intro l hl
    obtain ⟨label, -, hlabel⟩ := hmem l hl
    exact (decodeLabel?_spec hlabel).2.2
  · intro l hl c hc
    rw [← Bool.not_eq_true]
    exact fun hforbidden => hgood.1 ⟨l, hl, List.any_eq_true.mpr ⟨c, hc, hforbidden⟩⟩

namespace IsName

variable {ls : List (List Char)} (h : IsName ls)
include h

theorem isNameChar_of_mem {c : Char} (hc : c ∈ ofLabels (ls.map encodeLabel)) : IsNameChar c := by
  rcases mem_ofLabels hc with rfl | ⟨l, hl, hc⟩
  · decide
  · obtain ⟨l', hl', rfl⟩ := List.mem_map.mp hl
    exact (isNameChar_of_mem_encodeLabel (h.isLabel l' hl') (h.notMem l' hl')
      (h.allowed l' hl') hc).1

/-- A name is looked up as it is written in the form in which it is looked up. -/
theorem toAscii?_ofLabels :
    toAscii? (ofLabels (ls.map encodeLabel)) = some (ofLabels (ls.map encodeLabel)) := by
  have hchars : ∀ c ∈ ofLabels (ls.map encodeLabel), IsNameChar c := fun _ => h.isNameChar_of_mem
  have hmap : map? (ofLabels (ls.map encodeLabel)) = some (ofLabels (ls.map encodeLabel)) :=
    map?_of_forall fun c hc => (hchars c hc).2.1
  have hcompose : Unicode.compose (ofLabels (ls.map encodeLabel)) =
      ofLabels (ls.map encodeLabel) := by
    rw [Unicode.compose, if_pos]
    exact List.all_eq_true.mpr fun c hc => (hchars c hc).1
  have hforbidden : (ofLabels (ls.map encodeLabel)).any isForbidden = false :=
    List.any_eq_false.mpr fun c hc => by simp [(hchars c hc).2.2]
  have hlabels : labels (ofLabels (ls.map encodeLabel)) = ls.map encodeLabel := by
    refine labels_ofLabels (by simpa using h.ne_nil) fun l hl hdot => ?_
    obtain ⟨l', hl', rfl⟩ := List.mem_map.mp hl
    exact (isNameChar_of_mem_encodeLabel (h.isLabel l' hl') (h.notMem l' hl')
      (h.allowed l' hl') hdot).2 rfl
  have hdecode : (ls.map encodeLabel).mapM decodeLabel? = some ls := by
    have hone := h.isLabel
    have hafter := h.after?_eq_none
    clear h hchars hmap hcompose hforbidden hlabels
    induction ls with
    | nil => rfl
    | cons l ls ih =>
      rw [List.forall_mem_cons] at hone hafter
      rw [List.map_cons, List.mapM_cons, decodeLabel?_encodeLabel hone.1 hafter.1,
        ih hone.2 hafter.2]
      rfl
  have hagain : ls.any (·.any isForbidden) = false :=
    List.any_eq_false.mpr fun l hl => by
      rw [Bool.not_eq_true, List.any_eq_false]
      exact fun c hc => by simp [h.allowed l hl c hc]
  rw [toAscii?, hmap]
  simp only [Option.bind_eq_bind, Option.bind_some, hcompose, hforbidden, hlabels, hdecode, hagain,
    h.directionsFit]
  rfl

end IsName

/-- A name in the form in which it is looked up is looked up as it is. -/
theorem toAscii?_toAscii? {name out : List Char} (h : toAscii? name = some out) :
    toAscii? out = some out ∧ ∀ c ∈ out, IsNameChar c := by
  obtain ⟨ls, hls, rfl⟩ := exists_isName h
  exact ⟨hls.toAscii?_ofLabels, fun _ => hls.isNameChar_of_mem⟩

end Idna

namespace Url.Host

open Idna (IsNameChar)

/-! ### Hosts -/

/-- Whether a host is read from its text form. -/
def IsStable (host : Host) : Prop :=
  parseSpecial host.render.toList = .ok host

theorem isStable_of_address? {host : Host} (h : host.address?.isSome) : host.IsStable :=
  parseSpecial_render h

/-- A host that is a name was written as a name that is looked up so. -/
theorem parseSpecial_eq_name {s : List Char} {name : String}
    (h : parseSpecial s = .ok (.name name)) :
    (∃ text, Idna.toAscii? text = some name.toList) ∧ name.toList ≠ [] ∧
      endsInNumber name.toList = false := by
  unfold parseSpecial at h
  split at h
  · unfold parseBrackets at h
    split at h
    · split at h <;> cases h
    · cases h
  · split at h
    · cases h
    · rename_i text _
      split at h
      · cases h
      · cases h
      · rename_i domain hne hdomain
        split at h
        · split at h <;> cases h
        · rename_i hnumber
          obtain rfl : String.ofList domain = name := Host.name.inj (Except.ok.inj h)
          rw [String.toList_ofList]
          exact ⟨⟨_, hdomain⟩, hne, by simpa using hnumber⟩

theorem parseSpecial_name {domain : List Char} (hascii : Idna.toAscii? domain = some domain)
    (hne : domain ≠ []) (hchars : ∀ c ∈ domain, IsNameChar c)
    (hnumber : endsInNumber domain = false) :
    parseSpecial domain = .ok (.name (String.ofList domain)) := by
  have hpercent : '%' ∉ domain := fun h => absurd (hchars '%' h) (by decide)
  have hbracket : ¬ domain.head? = some '[' := fun h =>
    absurd (hchars '[' (List.mem_of_head? h)) (by decide)
  have htext : String.fromUTF8? ⟨(decode domain).toArray⟩ = some (String.ofList domain) := by
    rw [fromUTF8?_eq_some_iff, String.toList_ofList, decode_of_notMem hpercent]
  rw [parseSpecial, if_neg hbracket, htext]
  dsimp only
  rw [String.toList_ofList, hascii]
  cases domain with
  | nil => exact absurd rfl hne
  | cons c domain =>
    dsimp only
    rw [hnumber, if_neg Bool.false_ne_true]

/-- Every host that was read is read back from its text form. -/
theorem isStable_of_parseSpecial {s : List Char} {host : Host} (h : parseSpecial s = .ok host) :
    host.IsStable := by
  cases host with
  | name name =>
    obtain ⟨⟨text, htext⟩, hne, hnumber⟩ := parseSpecial_eq_name h
    obtain ⟨hascii, hchars⟩ := Idna.toAscii?_toAscii? htext
    rw [IsStable, render, parseSpecial_name hascii hne hchars hnumber, String.ofList_toList]
  | ipv4 x => exact isStable_of_address? rfl
  | ipv6 x => exact isStable_of_address? rfl

section Stable

variable {host : Host} (hhost : host.IsStable)
include hhost

theorem render_ne_nil_of_isStable : host.render.toList ≠ [] := by
  cases host with
  | name name => exact (parseSpecial_eq_name hhost).2.1
  | ipv4 x => exact render_ne_nil rfl
  | ipv6 x => exact render_ne_nil rfl

/-- The characters of a host are those of an address, or may stand in a name. -/
theorem of_mem_render_of_isStable {p : Char → Prop}
    (haddress : "[].:0123456789abcdefABCDEF".toList.Forall p) (hname : ∀ c, IsNameChar c → p c)
    {c : Char} (hc : c ∈ host.render.toList) : p c := by
  cases host with
  | name name =>
    obtain ⟨text, htext⟩ := (parseSpecial_eq_name hhost).1
    exact hname c ((Idna.toAscii?_toAscii? htext).2 c hc)
  | ipv4 x => exact of_mem_render rfl haddress hc
  | ipv6 x => exact of_mem_render rfl haddress hc

end Stable

end Url.Host

end FlowAudit
