import FlowAudit.Proofs.Net.Notation
import FlowAudit.Proofs.Unicode.Composition
import FlowAudit.Url.Basic

/-!
# Hosts read back, and blanks in hosts

A host that is an address is read from its text form as that address (`Host.parseSpecial_render`).
No host ends in a control or a blank (`Host.parseSpecial_of_low`): it is there still when the octets
are decoded (`mem_decode`), the name is mapped (`Idna.mem_map?`) and the text is composed, and then
the name is refused.
-/

namespace FlowAudit

open Unicode (IsLow)

namespace Url

/-! ### Octets -/

/-- A text is the one that given octets stand for if it has them. -/
theorem fromUTF8?_eq_some_iff {os : List UInt8} {text : String} :
    String.fromUTF8? ⟨os.toArray⟩ = some text ↔
      text.toList.flatMap String.utf8EncodeChar = os := by
  have htext : text.toByteArray = (text.toList.flatMap String.utf8EncodeChar).toByteArray :=
    congrArg String.toByteArray (@String.ofList_toList text).symm
  have hos : (⟨os.toArray⟩ : ByteArray) = os.toByteArray :=
    ByteArray.ext List.data_toByteArray.symm
  rw [hos]
  unfold String.fromUTF8?
  constructor
  · intro h
    split at h
    · obtain rfl := Option.some.inj h
      have hdata : os.toByteArray.data = _ := congrArg ByteArray.data htext
      rw [List.data_toByteArray, List.data_toByteArray] at hdata
      exact (congrArg Array.toList hdata).symm
    · cases h
  · rintro rfl
    rw [dif_pos (htext ▸ text.isValidUTF8)]
    congr 1
    exact String.toByteArray_inj.mp htext.symm

/-- Nothing is decoded where there is no percent sign. -/
theorem decode_of_notMem {s : List Char} (hs : '%' ∉ s) :
    decode s = s.flatMap String.utf8EncodeChar := by
  induction s with
  | nil => rfl
  | cons c s ih =>
    rw [List.mem_cons, not_or] at hs
    rw [decode, ih hs.2, List.flatMap_cons]
    rintro a b rest rfl
    exact absurd rfl hs.1

/-- The octet of a character of ASCII is one of no other character. -/
theorem eq_of_mem_utf8EncodeChar {c d : Char} (hc : c.toNat < 0x80)
    (h : c.toUInt8 ∈ String.utf8EncodeChar d) : c = d := by
  have hlow : c.val.toNat < 0x80 := hc
  have hval : c.toUInt8.toNat = c.val.toNat :=
    Nat.mod_eq_of_lt (by omega : c.val.toNat < 256)
  have hnot (n : Nat) (hn : 128 ≤ n) (hn' : n < 256) : c.toUInt8 ≠ UInt8.ofNat n := by
    intro heq
    have hnat := congrArg UInt8.toNat heq
    rw [hval, UInt8.toNat_ofNat'] at hnat
    omega
  unfold String.utf8EncodeChar at h
  dsimp only at h
  split at h
  · rw [List.mem_singleton] at h
    have hnat := congrArg UInt8.toNat h
    rw [hval, UInt8.toNat_ofNat'] at hnat
    exact Char.ext (UInt32.toNat_inj.mp (by omega))
  · -- the octets of characters behind ASCII are all large
    split at h
    · simp only [List.mem_cons, List.not_mem_nil, or_false] at h
      rcases h with h | h <;> exact absurd h (hnot _ (by omega) (by omega))
    · split at h
      · simp only [List.mem_cons, List.not_mem_nil, or_false] at h
        rcases h with h | h | h <;> exact absurd h (hnot _ (by omega) (by omega))
      · simp only [List.mem_cons, List.not_mem_nil, or_false] at h
        rcases h with h | h | h | h <;> exact absurd h (hnot _ (by omega) (by omega))

section Low

variable {c : Char} (hc : IsLow c)
include hc

theorem utf8EncodeChar_of_low : String.utf8EncodeChar c = [c.toUInt8] := by
  have hlow : c.val.toNat ≤ 0x20 := hc
  unfold String.utf8EncodeChar
  dsimp only
  rw [if_pos (by omega)]
  rfl

/-- No encoded octet takes a control or a blank with it. -/
theorem mem_decode {s : List Char} (h : c ∈ s) : c.toUInt8 ∈ decode s := by
  have hpercent : c ≠ '%' := hc.of_forall (p := (· ≠ '%')) (by decide)
  have hdigit : Text.digitOf? 16 c = none :=
    hc.of_forall (p := fun c => Text.digitOf? 16 c = none) (by decide)
  induction s using decode.induct with
  | case1 a b rest x y hb ha ih =>
    rw [decode, ha, hb]
    simp only [List.mem_cons] at h ⊢
    rcases h with rfl | rfl | rfl | h
    · exact absurd rfl hpercent
    · simp [hdigit] at ha
    · simp [hdigit] at hb
    · exact .inr (ih h)
  | case2 a b rest hnot ih =>
    rw [decode]
    split
    · rename_i x y ha hb
      exact absurd hb (hnot x y ha)
    · rw [List.mem_cons] at h ⊢
      exact .inr (ih (h.resolve_left hpercent))
  | case3 d rest hnot ih =>
    rw [decode, List.mem_append]
    · rcases List.mem_cons.mp h with rfl | h
      · exact .inl (by rw [utf8EncodeChar_of_low hc]; exact List.mem_singleton_self _)
      · exact .inr (ih h)
    · exact hnot
  | case4 => cases h

/-- A control or a blank is one of the text that the octets stand for. -/
theorem mem_of_fromUTF8? {s : List Char} {text : String} (h : c ∈ s)
    (htext : String.fromUTF8? ⟨(decode s).toArray⟩ = some text) : c ∈ text.toList := by
  have hoctet := mem_decode hc h
  rw [← fromUTF8?_eq_some_iff.mp htext, List.mem_flatMap] at hoctet
  obtain ⟨d, hd, hmem⟩ := hoctet
  rwa [eq_of_mem_utf8EncodeChar (Nat.lt_of_le_of_lt hc (by decide)) hmem]

end Low

end Url

/-! ### Names -/

namespace Idna

/-- A control or a blank stays when a name is mapped. -/
theorem mem_map? {c : Char} (hc : IsLow c) {name mapped : List Char} (h : c ∈ name)
    (hmap : map? name = some mapped) : c ∈ mapped := by
  have hsame : mapChar? c = some [c] :=
    hc.of_forall (p := fun c => mapChar? c = some [c]) (by decide)
  induction name generalizing mapped with
  | nil => cases h
  | cons d name ih =>
    obtain ⟨front, hfront, hrest⟩ := Option.bind_eq_some_iff.mp hmap
    obtain ⟨back, hback, heq⟩ := Option.bind_eq_some_iff.mp hrest
    obtain rfl := Option.some.inj heq
    rw [List.mem_append]
    rcases List.mem_cons.mp h with rfl | h
    · obtain rfl := Option.some.inj (hsame.symm.trans hfront)
      exact .inl (List.mem_singleton_self c)
    · exact .inr (ih h hback)

/-- A name with a control or a blank is refused. -/
theorem toAscii?_of_low {c : Char} (hc : IsLow c) {name : List Char} (h : c ∈ name) :
    toAscii? name = none := by
  rw [toAscii?]
  cases hmap : map? name with
  | none => rfl
  | some mapped =>
    have hmem : c ∈ Unicode.compose mapped := Unicode.mem_compose hc (mem_map? hc h hmap)
    have hforbidden : isForbidden c = true := by
      have hlow : c.toNat ≤ 0x20 := hc
      simp [isForbidden, hlow]
    have hany : (Unicode.compose mapped).any isForbidden = true :=
      List.any_eq_true.mpr ⟨c, hmem, hforbidden⟩
    simp only [Option.bind_eq_bind, Option.bind_some, hany, if_true]
    rfl

/-! ### Names made of numbers -/

theorem labelsFrom_append {front : List Char} (hfront : '.' ∉ front) (pending rest : List Char) :
    labelsFrom pending (front ++ '.' :: rest) =
      (pending.reverse ++ front) :: labelsFrom [] rest := by
  induction front generalizing pending with
  | nil => rw [List.nil_append, labelsFrom, List.append_nil]
  | cons c front ih =>
    rw [List.mem_cons, not_or] at hfront
    rw [List.cons_append, labelsFrom, ih hfront.2, List.reverse_cons, List.append_assoc]
    · rfl
    · exact fun h => hfront.1 h.symm

theorem labelsFrom_of_notMem {s : List Char} (hs : '.' ∉ s) (pending : List Char) :
    labelsFrom pending s = [pending.reverse ++ s] := by
  induction s generalizing pending with
  | nil => rw [labelsFrom, List.append_nil]
  | cons c s ih =>
    rw [List.mem_cons, not_or] at hs
    rw [labelsFrom, ih hs.2, List.reverse_cons, List.append_assoc]
    · rfl
    · exact fun h => hs.1 h.symm

/-- The labels of an address are its octets. -/
theorem labels_chars (x : Ipv4) :
    labels x.chars = x.octets.map fun o => (toString o.toNat).toList := by
  have hdot (n : Nat) : '.' ∉ (toString n).toList := fun hmem =>
    absurd (Ipv4.isDigit_of_mem_toString hmem) (by decide)
  rw [labels, Ipv4.chars, labelsFrom_append (hdot _), labelsFrom_append (hdot _),
    labelsFrom_append (hdot _), labelsFrom_of_notMem (hdot _)]
  rfl

theorem map?_of_forall {s : List Char} (hs : ∀ c ∈ s, mapChar? c = some [c]) : map? s = some s := by
  induction s with
  | nil => rfl
  | cons c s ih =>
    rw [List.forall_mem_cons] at hs
    rw [map?, hs.1, ih hs.2]
    rfl

section Digits

variable {label : List Char} (hlabel : ∀ c ∈ label, c.isDigit = true)
include hlabel

theorem all_isAscii_of_isDigit : label.all Unicode.isAscii = true :=
  List.all_eq_true.mpr fun c hc =>
    Text.of_isDigit (p := fun c => Unicode.isAscii c = true) (by decide) (hlabel c hc)

theorem decodeLabel?_of_isDigit : decodeLabel? label = some label := by
  have hnone : Text.after? punycodeMark label = none := by
    rw [Option.eq_none_iff_forall_ne_some]
    intro code hcode
    rw [Text.after?_eq_some_iff] at hcode
    exact absurd (hlabel 'x' (by simp [hcode, punycodeMark])) (by decide)
  have hkept : label.all (fun c => mapChar? c = some [c]) = true :=
    List.all_eq_true.mpr fun c hc =>
      Text.of_isDigit (p := fun c => decide (mapChar? c = some [c]) = true) (by decide)
        (hlabel c hc)
  rw [decodeLabel?, hnone]
  simp only [isLabel, hkept, all_isAscii_of_isDigit hlabel, Bool.true_or, Bool.and_true, if_true]

theorem encodeLabel_of_isDigit : encodeLabel label = label := by
  rw [encodeLabel, if_pos (all_isAscii_of_isDigit hlabel)]

end Digits

theorem mapM_decodeLabel? {ls : List (List Char)}
    (hls : ∀ label ∈ ls, ∀ c ∈ label, c.isDigit = true) : ls.mapM decodeLabel? = some ls := by
  induction ls with
  | nil => rfl
  | cons label ls ih =>
    rw [List.forall_mem_cons] at hls
    rw [List.mapM_cons, decodeLabel?_of_isDigit hls.1, ih hls.2]
    rfl

/-- An address is looked up as it is written. -/
theorem toAscii?_chars (x : Ipv4) : toAscii? x.chars = some x.chars := by
  have hmap : map? x.chars = some x.chars :=
    map?_of_forall fun c hc =>
      Ipv4.of_mem_chars (p := fun c => mapChar? c = some [c]) (by decide) hc
  have hcompose : Unicode.compose x.chars = x.chars := by
    rw [Unicode.compose, if_pos]
    exact List.all_eq_true.mpr fun c hc =>
      Ipv4.of_mem_chars (p := fun c => Unicode.isAscii c = true) (by decide) hc
  have hforbidden : x.chars.any isForbidden = false :=
    List.any_eq_false.mpr fun c hc =>
      Ipv4.of_mem_chars (p := fun c => ¬ isForbidden c = true) (by decide) hc
  have hdigits : ∀ label ∈ labels x.chars, ∀ c ∈ label, c.isDigit = true := by
    intro label hlabel
    rw [labels_chars, List.mem_map] at hlabel
    obtain ⟨o, -, rfl⟩ := hlabel
    exact fun c hc => Ipv4.isDigit_of_mem_toString hc
  have hlabels : (labels x.chars).any (·.any isForbidden) = false :=
    List.any_eq_false.mpr fun label hlabel => by
      rw [Bool.not_eq_true, List.any_eq_false]
      exact fun c hc => Text.of_isDigit (p := fun c => ¬ isForbidden c = true) (by decide)
        (hdigits label hlabel c hc)
  have hdirections : directionsFit (labels x.chars) = true := by
    rw [directionsFit, Bool.or_eq_true, List.all_eq_true]
    exact .inl fun label hlabel => all_isAscii_of_isDigit (hdigits label hlabel)
  have hencode : (labels x.chars).map encodeLabel = labels x.chars := by
    rw [List.map_congr_left fun label hlabel => encodeLabel_of_isDigit (hdigits label hlabel),
      List.map_id']
  have hjoin : ofLabels (labels x.chars) = x.chars := by
    rw [labels_chars, ← Ipv4.toList_render, Ipv4.render, String.toList_intercalate, List.map_map]
    rfl
  rw [toAscii?, hmap]
  simp only [Option.bind_eq_bind, Option.bind_some, hcompose, hforbidden, mapM_decodeLabel? hdigits,
    hlabels, hdirections, hencode, hjoin]
  rfl

end Idna

namespace Url.Host

/-! ### Hosts -/

/-- No host ends in a control or a blank. -/
theorem parseSpecial_of_low {c : Char} (hc : IsLow c) {s : List Char} (hlast : s.getLast? = some c)
    (host : Host) : parseSpecial s ≠ .ok host := by
  have hmem : c ∈ s := List.mem_of_getLast? hlast
  have hbracket : c ≠ ']' := hc.of_forall (p := (· ≠ ']')) (by decide)
  unfold parseSpecial parseBrackets
  split
  · rw [hlast, if_neg (by simpa using hbracket)]
    exact nofun
  · split
    · exact nofun
    · rename_i text htext
      rw [Idna.toAscii?_of_low hc (mem_of_fromUTF8? hc hmem htext)]
      exact nofun

theorem toString_ne_nil (n : Nat) : (toString n).toList ≠ [] := by
  rw [Nat.toString_eq_repr, Nat.toList_repr]
  exact Nat.toDigits_ne_nil

theorem readNumber?_toString (o : UInt8) :
    readNumber? (toString o.toNat).toList = some o.toNat := by
  -- a zero in front would make the number octal
  have hbase : baseAndDigits (toString o.toNat).toList = (10, (toString o.toNat).toList) := by
    have hzero := (Ipv4.octet_spec o).2
    unfold baseAndDigits
    split
    · rename_i rest heq
      rw [heq] at hzero
      simp at hzero
    · rename_i rest heq
      rw [heq] at hzero
      simp at hzero
    · rename_i c rest _ _ heq
      rw [heq] at hzero
      simp at hzero
    · rfl
  rw [readNumber?, hbase]
  simp only [List.isEmpty_iff, toString_ne_nil, if_false]
  rw [Nat.toString_eq_repr, Nat.toList_repr, Text.ofDigits?_toDigits]

theorem parts_chars (x : Ipv4) : parts x.chars = Idna.labels x.chars := by
  have hlast : (Idna.labels x.chars).getLast? = some (toString x.d.toNat).toList := by
    rw [Idna.labels_chars]
    rfl
  rw [parts, hlast, if_neg]
  simp

theorem endsInNumber_chars (x : Ipv4) : endsInNumber x.chars = true := by
  have hdigits : (toString x.d.toNat).toList.all Char.isDigit = true :=
    List.all_eq_true.mpr fun c hc => Ipv4.isDigit_of_mem_toString hc
  have hlast : (parts x.chars).getLast? = some (toString x.d.toNat).toList := by
    rw [parts_chars, Idna.labels_chars]
    rfl
  rw [endsInNumber, hlast]
  simp only [hdigits, Bool.true_or, Bool.and_true]
  simp

/-- The octets of an address make up its value. -/
theorem valueOf?_octets (x : Ipv4) :
    ∃ value, valueOf? 0 0 (x.octets.map UInt8.toNat) = some value ∧ Ipv4.ofNat value = x := by
  obtain ⟨a, b, c, d⟩ := x
  have ha := a.toNat_lt
  have hb := b.toNat_lt
  have hc := c.toNat_lt
  have hd := d.toNat_lt
  refine ⟨a.toNat * 0x1000000 + b.toNat * 0x10000 + c.toNat * 0x100 + d.toNat, ?_, ?_⟩
  · simp only [Ipv4.octets, List.map_cons, List.map_nil, valueOf?]
    rw [if_pos (by omega), if_pos (by omega), if_pos (by omega), if_pos (by simpa using hd)]
    simp
  · rw [Ipv4.ofNat, Ipv4.mk.injEq]
    refine ⟨?_, ?_, ?_, ?_⟩
    all_goals
      apply UInt8.toNat_inj.mp
      rw [UInt8.toNat_ofNat']
      omega

/-- An address is read from its octets. -/
theorem parseIpv4?_chars (x : Ipv4) : parseIpv4? x.chars = some x := by
  have hnumbers : (Idna.labels x.chars).mapM readNumber? = some (x.octets.map UInt8.toNat) := by
    rw [Idna.labels_chars]
    simp only [Ipv4.octets, List.map_cons, List.map_nil, List.mapM_cons, List.mapM_nil,
      readNumber?_toString]
    rfl
  have hlength : ¬ (Idna.labels x.chars).length > 4 := by
    rw [Idna.labels_chars, List.length_map]
    exact Nat.lt_irrefl 4
  obtain ⟨value, hvalue, hx⟩ := valueOf?_octets x
  rw [parseIpv4?, parts_chars]
  simp only [hlength, hnumbers, hvalue, if_false, Option.bind_eq_bind, Option.bind_some]
  rw [hx]
  rfl

theorem parseSpecial_ipv4 (x : Ipv4) : parseSpecial x.chars = .ok (.ipv4 x) := by
  have hpercent : '%' ∉ x.chars := fun h =>
    absurd rfl (Ipv4.of_mem_chars (p := (· ≠ '%')) (by decide) h)
  have hbracket : ¬ x.chars.head? = some '[' := fun h =>
    absurd rfl (Ipv4.of_mem_chars (p := (· ≠ '[')) (by decide) (List.mem_of_head? h))
  have htext : String.fromUTF8? ⟨(decode x.chars).toArray⟩ = some (String.ofList x.chars) := by
    rw [fromUTF8?_eq_some_iff, String.toList_ofList, decode_of_notMem hpercent]
  have hne : x.chars ≠ [] := by simp [Ipv4.chars]
  rw [parseSpecial, if_neg hbracket, htext]
  simp only [String.toList_ofList, Idna.toAscii?_chars]
  rw [if_pos (endsInNumber_chars x), parseIpv4?_chars]

theorem parseSpecial_ipv6 (x : Ipv6) :
    parseSpecial ('[' :: x.renderCompressed.toList ++ [']']) = .ok (.ipv6 x) := by
  rw [parseSpecial, List.cons_append, List.head?_cons, if_pos rfl, ← List.cons_append,
    parseBrackets, if_pos List.getLast?_concat]
  simp [Ipv6.parse?_renderCompressed]

/-! ### Addresses as hosts -/

/-- The address that a host is. -/
def address? : Host → Option IpAddress
  | .name _ => none
  | .ipv4 x => some (.v4 x)
  | .ipv6 x => some (.v6 x)

variable {host : Host} (hhost : host.address?.isSome)
include hhost

/-- A host that is an address is read from its text form. -/
theorem parseSpecial_render : parseSpecial host.render.toList = .ok host := by
  cases host with
  | name text => cases hhost
  | ipv4 x =>
    rw [render, Ipv4.toList_render]
    exact parseSpecial_ipv4 x
  | ipv6 x =>
    have htext : (ipv6 x).render.toList = '[' :: x.renderCompressed.toList ++ [']'] := by
      simp [render]
    rw [htext]
    exact parseSpecial_ipv6 x

theorem render_ne_nil : host.render.toList ≠ [] := by
  cases host with
  | name text => cases hhost
  | ipv4 x => simp [render, Ipv4.toList_render, Ipv4.chars]
  | ipv6 x => simp [render]

/-- What holds of digits and of four other characters holds of the characters of an address. -/
theorem of_mem_render {p : Char → Prop} (h : "[].:0123456789abcdefABCDEF".toList.Forall p)
    {c : Char} (hc : c ∈ host.render.toList) : p c := by
  obtain ⟨hopen, hrest⟩ := (List.forall_cons _ _ _).mp h
  obtain ⟨hclose, hinside⟩ := (List.forall_cons _ _ _).mp hrest
  cases host with
  | name text => cases hhost
  | ipv4 x => exact IpAddress.of_mem_render hinside (x := .v4 x) hc
  | ipv6 x =>
    simp only [render, String.toList_append, List.mem_append] at hc
    rcases hc with (hc | hc) | hc
    · obtain rfl : c = '[' := by simpa using hc
      exact hopen
    · exact Ipv6.of_mem_renderCompressed ((List.forall_cons _ _ _).mp hinside).2 hc
    · obtain rfl : c = ']' := by simpa using hc
      exact hclose

end Url.Host

end FlowAudit
