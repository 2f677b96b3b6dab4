import Mathlib.Algebra.Group.Nat.Defs
import Mathlib.Data.List.Basic
import FlowAudit.Net.Notation
import FlowAudit.Proofs.Text.Hexadecimal
import FlowAudit.Proofs.Text.Words

/-!
# Addresses read back

The text form of an address is read as that address (`IpAddress.parse?_render`), and so is the form
in which an IPv6 address stands in a URL (`Ipv6.parse?_renderCompressed`).
-/

namespace FlowAudit

/-! ### IPv4 addresses -/

namespace Ipv4

/-- An octet in decimal: at most three digits, and no zero in front of others. -/
theorem octet_spec (o : UInt8) :
    (toString o.toNat).toList.length ≤ 3 ∧
      ((toString o.toNat).toList.head? = some '0' → (toString o.toNat).toList.length = 1) := by
  have hall : ∀ n < 256, (Nat.toDigits 10 n).length ≤ 3 ∧
      ((Nat.toDigits 10 n).head? = some '0' → (Nat.toDigits 10 n).length = 1) := by
    decide +kernel
  rw [Nat.toString_eq_repr, Nat.toList_repr]
  exact hall o.toNat o.toNat_lt

theorem isDigit_of_mem_toString {n : Nat} {c : Char} (hc : c ∈ (toString n).toList) :
    c.isDigit = true := by
  rw [Nat.toString_eq_repr, Nat.toList_repr] at hc
  exact Nat.isDigit_of_mem_toDigits (by omega) (by omega) hc

theorem readOctet?_append (o : UInt8) {rest : List Char}
    (hrest : ∀ c ∈ rest.head?, c.isDigit = false) :
    readOctet? ((toString o.toNat).toList ++ rest) = some (o, rest) := by
  obtain ⟨hlength, hzero⟩ := octet_spec o
  rw [readOctet?, Text.span_append (fun _ => isDigit_of_mem_toString) hrest]
  have hgood : ¬ ((toString o.toNat).toList.length > 3 ∨
      (toString o.toNat).toList.head? = some '0' ∧ (toString o.toNat).toList.length > 1) := by
    rintro (h | ⟨h, h'⟩)
    · omega
    · have := hzero h
      omega
  simp only [Text.byte?_toString]
  rw [if_neg (by simpa using hgood)]
  rfl

/-- The characters of an address. -/
def chars (x : Ipv4) : List Char :=
  (toString x.a.toNat).toList ++ '.' :: ((toString x.b.toNat).toList ++ '.' ::
    ((toString x.c.toNat).toList ++ '.' :: (toString x.d.toNat).toList))

theorem toList_render (x : Ipv4) : x.render.toList = x.chars := by
  simp [render, octets, chars]

/-- What holds of the ten digits and of the dot holds of the characters of an address. -/
theorem of_mem_chars {p : Char → Prop} (h : ".0123456789".toList.Forall p) {x : Ipv4} {c : Char}
    (hc : c ∈ x.chars) : p c := by
  obtain ⟨hdot, hdigits⟩ := (List.forall_cons _ _ _).mp h
  have hdigit (n : Nat) (hmem : c ∈ (toString n).toList) : p c :=
    Text.of_isDigit hdigits (isDigit_of_mem_toString hmem)
  simp only [chars, List.mem_append, List.mem_cons] at hc
  rcases hc with hc | rfl | hc | rfl | hc | rfl | hc
  · exact hdigit _ hc
  · exact hdot
  · exact hdigit _ hc
  · exact hdot
  · exact hdigit _ hc
  · exact hdot
  · exact hdigit _ hc

theorem read?_chars (x : Ipv4) {rest : List Char} (hrest : ∀ c ∈ rest.head?, c.isDigit = false) :
    read? (x.chars ++ rest) = some (x, rest) := by
  have hdot (s : List Char) : ∀ c ∈ ('.' :: s).head?, c.isDigit = false := by
    intro c hc
    obtain rfl : '.' = c := by simpa using hc
    decide
  have hafter (s : List Char) : Text.after? ['.'] ('.' :: s) = some s := by
    simp [Text.after?]
  rw [read?, chars, List.append_assoc, List.cons_append, List.append_assoc, List.cons_append,
    List.append_assoc, List.cons_append]
  simp only [readOctet?_append _ (hdot _), hafter, readOctet?_append _ hrest, Option.bind_eq_bind,
    Option.bind_some]
  rfl

theorem parse?_render (x : Ipv4) : parse? x.render.toList = some x := by
  have hread := @read?_chars x [] (by simp)
  rw [List.append_nil] at hread
  rw [parse?, toList_render, hread]
  rfl

end Ipv4

/-- An address starts with a digit. -/
theorem Ipv4.read?_of_head? {s : List Char} (hs : ∀ c ∈ s.head?, c.isDigit = false) :
    read? s = none := by
  have hspan : s.span Char.isDigit = ([], s) :=
    @Text.span_append Char.isDigit [] s (List.forall_mem_nil _) hs
  rw [read?, readOctet?, hspan]
  rfl

/-- Without a dot there is no address. -/
theorem Ipv4.read?_of_notMem {s : List Char} (hs : '.' ∉ s) : read? s = none := by
  rw [read?]
  cases hread : readOctet? s with
  | none => rfl
  | some octet =>
    obtain ⟨a, rest⟩ := octet
    have hrest : '.' ∉ rest := by
      unfold readOctet? at hread
      rw [List.span_eq_takeWhile_dropWhile] at hread
      dsimp only at hread
      split at hread
      · cases hread
      · obtain ⟨o, -, heq⟩ := Option.bind_eq_some_iff.mp hread
        obtain ⟨-, rfl⟩ := Prod.mk.inj (Option.some.inj heq)
        exact fun hmem => hs ((List.dropWhile_sublist _).subset hmem)
    have hnone : Text.after? ['.'] rest = none := by
      rw [Option.eq_none_iff_forall_ne_some]
      rintro back hback
      rw [Text.after?_eq_some_iff] at hback
      exact hrest (by rw [hback]; simp)
    simp only [Option.bind_eq_bind, Option.bind_some, hnone]
    rfl

/-! ### IPv6 addresses -/

namespace Ipv6

/-- The characters of groups set apart by colons. -/
def groupChars : List UInt16 → List Char
  | [] => []
  | g :: gs => Text.digits 16 g.toNat ++ gs.flatMap fun h => ':' :: Text.digits 16 h.toNat

theorem toList_renderGroups (gs : List UInt16) : (renderGroups gs).toList = groupChars gs := by
  rw [renderGroups, String.toList_intercalate, List.map_map]
  induction gs with
  | nil => rfl
  | cons g gs ih =>
    cases gs with
    | nil => simp [groupChars, Text.toList_hex, List.intercalate]
    | cons h gs =>
      rw [groupChars, List.flatMap_cons, List.cons_append, ← groupChars, ← ih]
      simp [Text.toList_hex, List.intercalate]

theorem notMem_digits {n : Nat} {c : Char} (hc : Text.isDigitOf 16 c = false) :
    c ∉ Text.digits 16 n := by
  intro hmem
  rw [Text.isDigitOf_of_mem_digits hmem] at hc
  cases hc

theorem of_mem_groupChars {gs : List UInt16} {c : Char} (hc : c ∈ groupChars gs) :
    c = ':' ∨ Text.isDigitOf 16 c = true := by
  cases gs with
  | nil => cases hc
  | cons g gs =>
    simp only [groupChars, List.mem_append, List.mem_flatMap, List.mem_cons] at hc
    rcases hc with hc | ⟨h, -, rfl | hc⟩
    · exact .inr (Text.isDigitOf_of_mem_digits hc)
    · exact .inl rfl
    · exact .inr (Text.isDigitOf_of_mem_digits hc)

theorem notMem_groupChars (gs : List UInt16) : '.' ∉ groupChars gs := fun hc =>
  (of_mem_groupChars hc).elim (by decide) (by decide)

theorem readGroup?_append (g : UInt16) {rest : List Char}
    (hrest : ∀ c ∈ rest.head?, Text.isDigitOf 16 c = false) :
    readGroup? (Text.digits 16 g.toNat ++ rest) = some (g, rest) := by
  have hlength : ¬ (Text.digits 16 g.toNat).length > 4 :=
    Nat.not_lt.mpr (Text.length_digits_le (k := 3) g.toNat_lt)
  have hread : Text.ofDigits? 16 (Text.digits 16 g.toNat) = some g.toNat := by
    rw [Text.ofDigits?, if_neg (by simp [Text.digits_ne_nil]), Text.ofDigitsFrom?_digits]
  rw [readGroup?, Text.span_append (fun _ => Text.isDigitOf_of_mem_digits) hrest]
  simp [hlength, hread]

/-- Where groups end: at the end of the text, or at two colons. -/
def Ends (s : List Char) : Prop :=
  s = [] ∨ ∃ rest, s = ':' :: ':' :: rest

theorem Ends.head? {s : List Char} (h : Ends s) :
    ∀ c ∈ s.head?, Text.isDigitOf 16 c = false := by
  obtain rfl | ⟨rest, rfl⟩ := h
  · simp
  · intro c hc
    obtain rfl : ':' = c := by simpa using hc
    decide

theorem readGroup?_of_head? {s : List Char} (hs : ∀ c ∈ s.head?, Text.isDigitOf 16 c = false) :
    readGroup? s = none := by
  have hspan : s.span (Text.isDigitOf 16) = ([], s) :=
    @Text.span_append (Text.isDigitOf 16) [] s (List.forall_mem_nil _) hs
  rw [readGroup?, hspan]
  rfl

/-- What stands in front of a group. -/
def mark (first : Bool) : List Char :=
  if first then [] else [':']

/-- A group is read, and then those behind it. -/
theorem readGroups_append (first : Bool) (room : Nat) (g : UInt16) {rest : List Char}
    (hrest : ∀ c ∈ rest.head?, Text.isDigitOf 16 c = false)
    (hnone : Ipv4.read? (Text.digits 16 g.toNat ++ rest) = none) :
    readGroups first (room + 1) (mark first ++ (Text.digits 16 g.toNat ++ rest)) =
      { readGroups false room rest with groups := g :: (readGroups false room rest).groups } := by
  have hmark : (if first then some (mark first ++ (Text.digits 16 g.toNat ++ rest))
      else Text.after? [':'] (mark first ++ (Text.digits 16 g.toNat ++ rest))) =
        some (Text.digits 16 g.toNat ++ rest) := by
    cases first <;> simp [mark, Text.after?]
  rw [readGroups, hmark]
  simp only [hnone, ite_self, readGroup?_append g hrest]

/-- No group is read where groups end. -/
theorem readGroups_of_ends {s : List Char} (h : Ends s) (hdot : '.' ∉ s) (first : Bool)
    (room : Nat) : readGroups first room s = ⟨[], false, s⟩ := by
  cases room with
  | zero => rfl
  | succ room =>
    have hfirst : Ipv4.read? s = none := Ipv4.read?_of_notMem hdot
    rw [readGroups]
    cases first with
    | true => simp only [if_true, hfirst, ite_self, readGroup?_of_head? h.head?]
    | false =>
      obtain rfl | ⟨rest, rfl⟩ := h
      · rfl
      · have hafter : Text.after? [':'] (':' :: ':' :: rest) = some (':' :: rest) := by
          simp [Text.after?]
        have hnone : Ipv4.read? (':' :: rest) = none :=
          Ipv4.read?_of_notMem fun hmem => hdot (List.mem_cons_of_mem _ hmem)
        have hcolon : readGroup? (':' :: rest) = none :=
          readGroup?_of_head? fun c hc => by
            obtain rfl : ':' = c := by simpa using hc
            decide
        simp [hafter, hnone, hcolon]

/-- What stands behind a group: the other groups, each with a colon in front, and the end. -/
theorem head?_behind (gs : List UInt16) {rest : List Char} (hends : Ends rest) :
    ∀ c ∈ ((gs.flatMap fun g => ':' :: Text.digits 16 g.toNat) ++ rest).head?,
      Text.isDigitOf 16 c = false := by
  cases gs with
  | nil => exact hends.head?
  | cons g gs =>
    intro c hc
    obtain rfl : ':' = c := by simpa using hc
    decide

theorem read?_behind (g : UInt16) (gs : List UInt16) {rest : List Char} (hdot : '.' ∉ rest) :
    Ipv4.read? (Text.digits 16 g.toNat ++
      ((gs.flatMap fun g => ':' :: Text.digits 16 g.toNat) ++ rest)) = none := by
  have hdigits (n : Nat) : '.' ∉ Text.digits 16 n := notMem_digits (by decide)
  exact Ipv4.read?_of_notMem (by simp [hdigits, hdot])

/-- Groups behind colons are read up to where they end. -/
theorem readGroups_false {gs : List UInt16} {room : Nat} {rest : List Char}
    (hroom : gs.length ≤ room) (hends : Ends rest) (hdot : '.' ∉ rest) :
    readGroups false room ((gs.flatMap fun g => ':' :: Text.digits 16 g.toNat) ++ rest) =
      ⟨gs, false, rest⟩ := by
  induction gs generalizing room with
  | nil => exact readGroups_of_ends hends hdot false room
  | cons g gs ih =>
    cases room with
    | zero => simp at hroom
    | succ room =>
      have hstep := readGroups_append false room g (head?_behind gs hends) (read?_behind g gs hdot)
      rw [ih (Nat.le_of_succ_le_succ hroom)] at hstep
      rw [List.flatMap_cons, List.cons_append, List.cons_append, List.append_assoc]
      exact hstep

/-- Groups are read up to where they end. -/
theorem readGroups_groupChars {gs : List UInt16} {room : Nat} {rest : List Char}
    (hroom : gs.length ≤ room) (hends : Ends rest) (hdot : '.' ∉ rest) :
    readGroups true room (groupChars gs ++ rest) = ⟨gs, false, rest⟩ := by
  cases gs with
  | nil => exact readGroups_of_ends hends hdot true room
  | cons g gs =>
    cases room with
    | zero => simp at hroom
    | succ room =>
      have hstep := readGroups_append true room g (head?_behind gs hends) (read?_behind g gs hdot)
      rw [readGroups_false (Nat.le_of_succ_le_succ hroom) hends hdot] at hstep
      rw [groupChars, List.append_assoc]
      exact hstep

/-- The run that is shortened is a run of zero groups, if it is not the one found before. -/
theorem longestZeroRun_eq (start : Nat) (best : Nat × Nat) (gs : List UInt16) :
    longestZeroRun start best gs = best ∨
      ∃ i < gs.length, longestZeroRun start best gs = (start + i, zeroRun (gs.drop i)) := by
  induction gs generalizing start best with
  | nil => exact .inl rfl
  | cons g gs ih =>
    rw [longestZeroRun]
    obtain hsame | ⟨i, hi, hlater⟩ :=
      ih (start + 1) (if zeroRun (g :: gs) > best.2 then (start, zeroRun (g :: gs)) else best)
    · rw [hsame]
      split
      · exact .inr ⟨0, Nat.zero_lt_succ _, rfl⟩
      · exact .inl rfl
    · refine .inr ⟨i + 1, Nat.succ_lt_succ hi, ?_⟩
      rw [hlater, List.drop_succ_cons, Nat.add_assoc, Nat.add_comm 1 i]

theorem take_zeroRun (gs : List UInt16) : gs.take (zeroRun gs) = List.replicate (zeroRun gs) 0 := by
  induction gs with
  | nil => rfl
  | cons g gs ih =>
    by_cases hg : g = 0
    · have hsucc : zeroRun (g :: gs) = zeroRun gs + 1 := by simp [zeroRun, hg]
      rw [hsucc, List.take_succ_cons, List.replicate_succ, ih, hg]
    · have hzero : zeroRun (g :: gs) = 0 := by simp [zeroRun, hg]
      rw [hzero]
      rfl

/-- Groups are those in front of a run of zero groups, the run, and those behind it. -/
theorem take_append_replicate_append_drop (gs : List UInt16) (start : Nat) :
    gs.take start ++ List.replicate (zeroRun (gs.drop start)) 0 ++
      gs.drop (start + zeroRun (gs.drop start)) = gs := by
  rw [← take_zeroRun, ← List.drop_drop, List.append_assoc, List.take_append_drop,
    List.take_append_drop]

theorem length_groups (x : Ipv6) : x.groups.length = 8 := rfl

/-- Groups with a run of zero groups left out are read. -/
theorem read?_shortened (x : Ipv6) {start run : Nat} (hrun : 0 < run)
    (hzero : run = zeroRun (x.groups.drop start)) (hstart : start + run ≤ 8) :
    read? (groupChars (x.groups.take start) ++ ':' :: ':' ::
      groupChars (x.groups.drop (start + run))) = some (x, []) := by
  have hback : (groupChars (x.groups.drop (start + run))) =
      groupChars (x.groups.drop (start + run)) ++ [] := (List.append_nil _).symm
  have htake : (x.groups.take start).length = start := by
    rw [List.length_take, length_groups]
    omega
  have hdrop : (x.groups.drop (start + run)).length = 8 - (start + run) := by
    rw [List.length_drop, length_groups]
  have hfrontRead : readGroups true 8 (groupChars (x.groups.take start) ++ ':' :: ':' ::
      groupChars (x.groups.drop (start + run))) =
        ⟨x.groups.take start, false, ':' :: ':' :: groupChars (x.groups.drop (start + run))⟩ :=
    readGroups_groupChars (by omega) (.inr ⟨_, rfl⟩) (by simpa using notMem_groupChars _)
  have hbackRead : readGroups true (7 - start) (groupChars (x.groups.drop (start + run))) =
      ⟨x.groups.drop (start + run), false, []⟩ := by
    rw [hback]
    exact readGroups_groupChars (by omega) (.inl rfl) List.not_mem_nil
  have hafter : Text.after? [':', ':'] (':' :: ':' :: groupChars (x.groups.drop (start + run))) =
      some (groupChars (x.groups.drop (start + run))) := by
    simp [Text.after?]
  have hgroups : x.groups.take start ++ List.replicate (8 - start - (8 - (start + run))) 0 ++
      x.groups.drop (start + run) = x.groups := by
    have hlength : 8 - start - (8 - (start + run)) = zeroRun (x.groups.drop start) := by omega
    rw [hlength, hzero]
    exact take_append_replicate_append_drop x.groups start
  rw [read?]
  simp only [hfrontRead, hafter, htake, hbackRead, hdrop, hgroups, ofGroups?_groups,
    Option.bind_eq_bind, Option.bind_some]
  rw [if_neg (by omega)]
  rfl

/-- The form of an address with groups only is read as that address. -/
theorem parse?_renderCompressed (x : Ipv6) : parse? x.renderCompressed.toList = some x := by
  suffices hread : read? x.renderCompressed.toList = some (x, []) by
    rw [parse?, hread]
    rfl
  obtain ⟨start, run, hlongest⟩ : ∃ start run, longestZeroRun 0 (0, 0) x.groups = (start, run) :=
    ⟨_, _, rfl⟩
  rw [renderCompressed, hlongest]
  dsimp only
  split
  · rename_i hrun
    obtain hnone | ⟨i, hi, hsome⟩ := longestZeroRun_eq 0 (0, 0) x.groups
    · obtain ⟨-, rfl⟩ := Prod.mk.inj (hlongest.symm.trans hnone)
      omega
    · obtain ⟨rfl, rfl⟩ := Prod.mk.inj (hlongest.symm.trans hsome)
      have hle : zeroRun (x.groups.drop i) ≤ 8 - i := by
        have hlength := (List.takeWhile_sublist (p := (· == 0)) (l := x.groups.drop i)).length_le
        rwa [List.length_drop, length_groups] at hlength
      rw [length_groups] at hi
      rw [Nat.zero_add]
      have hread := @read?_shortened x i _ (by omega) rfl (by omega)
      simpa [toList_renderGroups] using hread
  · have hread := @readGroups_groupChars x.groups 8 [] (Nat.le_refl 8) (.inl rfl) List.not_mem_nil
    rw [List.append_nil] at hread
    rw [toList_renderGroups, read?]
    simp [hread, length_groups, ofGroups?_groups]

/-! ### Mapped addresses -/

theorem groupOfOctets_octets (g : UInt16) : groupOfOctets (g >>> 8).toUInt8 g.toUInt8 = g := by
  apply UInt16.toNat_inj.mp
  have hg := g.toNat_lt
  have hshift : UInt16.toNat 8 % 16 = 8 := rfl
  simp only [groupOfOctets, UInt16.toNat_or, UInt16.toNat_shiftLeft, UInt8.toNat_toUInt16,
    UInt16.toNat_toUInt8, UInt16.toNat_shiftRight]
  rw [hshift, Nat.shiftRight_eq_div_pow, Nat.mod_eq_of_lt (by omega : g.toNat / 2 ^ 8 < 2 ^ 8),
    Nat.mod_eq_of_lt (by rw [Nat.shiftLeft_eq]; omega),
    ← Nat.shiftLeft_add_eq_or_of_lt (Nat.mod_lt _ (by decide)), Nat.shiftLeft_eq]
  omega

theorem octetsOfGroup_groupOfOctets (high low : UInt8) :
    octetsOfGroup (groupOfOctets high low) = [high, low] := by
  have hhigh := high.toNat_lt
  have hlow := low.toNat_lt
  have hshift : UInt16.toNat 8 % 16 = 8 := rfl
  have hgroup : (groupOfOctets high low).toNat = high.toNat * 2 ^ 8 + low.toNat := by
    simp only [groupOfOctets, UInt16.toNat_or, UInt16.toNat_shiftLeft, UInt8.toNat_toUInt16]
    rw [hshift, Nat.mod_eq_of_lt (by rw [Nat.shiftLeft_eq]; omega),
      ← Nat.shiftLeft_add_eq_or_of_lt (by omega), Nat.shiftLeft_eq]
  rw [octetsOfGroup, List.cons.injEq, List.cons.injEq]
  refine ⟨?_, ?_, rfl⟩
  · apply UInt8.toNat_inj.mp
    rw [UInt16.toNat_toUInt8, UInt16.toNat_shiftRight, hshift, hgroup, Nat.shiftRight_eq_div_pow]
    omega
  · apply UInt8.toNat_inj.mp
    rw [UInt16.toNat_toUInt8, hgroup]
    omega

theorem mapped?_toMapped (y : Ipv4) : y.toMapped.mapped? = some y := by
  have hmarks : y.toMapped.g0 = 0 ∧ y.toMapped.g1 = 0 ∧ y.toMapped.g2 = 0 ∧ y.toMapped.g3 = 0 ∧
      y.toMapped.g4 = 0 ∧ y.toMapped.g5 = 0xFFFF := ⟨rfl, rfl, rfl, rfl, rfl, rfl⟩
  rw [mapped?, if_pos hmarks, Ipv4.toMapped, octetsOfGroup_groupOfOctets,
    octetsOfGroup_groupOfOctets]
  rfl

/-- Only the mapped form of an address stands for it. -/
theorem eq_toMapped {x : Ipv6} {y : Ipv4} (h : x.mapped? = some y) : x = y.toMapped := by
  unfold mapped? at h
  split at h
  · rename_i hgroups
    obtain ⟨h0, h1, h2, h3, h4, h5⟩ := hgroups
    obtain rfl := Option.some.inj h
    cases x
    simp_all [Ipv4.toMapped, groupOfOctets_octets]
  · cases h

/-- An address in dots behind a colon is read as two groups. -/
theorem readGroups_chars (room : Nat) (y : Ipv4) :
    readGroups false (room + 2) (':' :: y.chars) = ⟨groupsOfIpv4 y, true, []⟩ := by
  have hread := @Ipv4.read?_chars y [] (by simp)
  rw [List.append_nil] at hread
  rw [readGroups]
  simp [Text.after?, hread]

/-- The last three groups of a mapped address are read behind the two colons. -/
theorem readGroups_ffff (y : Ipv4) : readGroups true 7 ("ffff:".toList ++ y.chars) =
    ⟨[0xFFFF, groupOfOctets y.a y.b, groupOfOctets y.c y.d], true, []⟩ := by
  have hdigits : Text.digits 16 (0xFFFF : UInt16).toNat = "ffff".toList := by decide +kernel
  have hnone : Ipv4.read? (Text.digits 16 (0xFFFF : UInt16).toNat ++ ':' :: y.chars) = none := by
    refine Ipv4.read?_of_head? fun c hc => ?_
    rw [hdigits] at hc
    obtain rfl : 'f' = c := by simpa using hc
    decide
  have hcolon : ∀ c ∈ (':' :: y.chars).head?, Text.isDigitOf 16 c = false := by
    intro c hc
    obtain rfl : ':' = c := by simpa using hc
    decide
  have hstep := readGroups_append true 6 0xFFFF hcolon hnone
  rw [readGroups_chars, hdigits] at hstep
  exact hstep

/-- The form of a mapped address is read as that address. -/
theorem parse?_mapped (y : Ipv4) : parse? ("::ffff:".toList ++ y.chars) = some y.toMapped := by
  have hfront (s : List Char) : readGroups true 8 (':' :: s) = ⟨[], false, ':' :: s⟩ := by
    have hhead : ∀ c ∈ (':' :: s).head?, c.isDigit = false ∧ Text.isDigitOf 16 c = false := by
      intro c hc
      obtain rfl : ':' = c := by simpa using hc
      decide
    rw [readGroups]
    simp [Ipv4.read?_of_head? fun c hc => (hhead c hc).1,
      readGroup?_of_head? fun c hc => (hhead c hc).2]
  have htext : "::ffff:".toList ++ y.chars = ':' :: ':' :: ("ffff:".toList ++ y.chars) := rfl
  have hafter (s : List Char) : Text.after? [':', ':'] (':' :: ':' :: s) = some s := by
    simp [Text.after?]
  rw [htext, parse?, read?, hfront]
  dsimp only
  rw [hafter]
  simp only [List.length_nil, Nat.sub_zero, Option.bind_eq_bind, Option.bind_some, readGroups_ffff]
  rfl

/-- What holds of the colon and of digits holds of the characters of groups. -/
theorem of_mem_renderCompressed {p : Char → Prop} (h : ":0123456789abcdefABCDEF".toList.Forall p)
    {x : Ipv6} {c : Char} (hc : c ∈ x.renderCompressed.toList) : p c := by
  obtain ⟨hcolon, hdigits⟩ := (List.forall_cons _ _ _).mp h
  have hgroups {gs : List UInt16} (hc : c ∈ groupChars gs) : p c := by
    rcases of_mem_groupChars hc with rfl | hc
    · exact hcolon
    · exact Text.of_isDigitOf hdigits hc
  rw [renderCompressed] at hc
  dsimp only at hc
  split at hc
  · rw [String.toList_append, String.toList_append, toList_renderGroups, toList_renderGroups,
      List.mem_append, List.mem_append] at hc
    rcases hc with (hc | hc) | hc
    · exact hgroups hc
    · obtain rfl : c = ':' := by simpa using hc
      exact hcolon
    · exact hgroups hc
  · rw [toList_renderGroups] at hc
    exact hgroups hc

end Ipv6

namespace IpAddress

/-- What holds of dots, colons and digits holds of the characters of an address. -/
theorem of_mem_render {p : Char → Prop} (h : ".:0123456789abcdefABCDEF".toList.Forall p)
    {x : IpAddress} {c : Char} (hc : c ∈ x.render.toList) : p c := by
  have hmem := List.forall_iff_forall_mem.mp h
  have hchars (y : Ipv4) (hc : c ∈ y.chars) : p c := by
    have hall : ".0123456789".toList.Forall (· ∈ ".:0123456789abcdefABCDEF".toList) := by decide
    exact Ipv4.of_mem_chars (hall.imp hmem) hc
  cases x with
  | v4 x =>
    rw [render, Ipv4.toList_render] at hc
    exact hchars x hc
  | v6 x =>
    rw [render, Ipv6.render] at hc
    split at hc
    · rename_i y hmapped
      rw [String.toList_append, List.mem_append, Ipv4.toList_render] at hc
      rcases hc with hc | hc
      · have hall : "::ffff:".toList.Forall (· ∈ ".:0123456789abcdefABCDEF".toList) := by decide
        exact hmem c (List.forall_iff_forall_mem.mp hall c hc)
      · exact hchars y hc
    · exact Ipv6.of_mem_renderCompressed ((List.forall_cons _ _ _).mp h).2 hc

/-- The text form of an address is read as that address. -/
theorem parse?_render (x : IpAddress) : parse? x.render.toList = some x := by
  cases x with
  | v4 x =>
    rw [parse?, render, Ipv4.parse?_render]
  | v6 x =>
    rw [parse?, render, Ipv6.render]
    cases hmapped : x.mapped? with
    | some y =>
      have hnone : Ipv4.read? ("::ffff:".toList ++ y.chars) = none :=
        Ipv4.read?_of_head? fun c hc => by
          obtain rfl : ':' = c := by simpa using hc
          decide
      dsimp only
      rw [String.toList_append, Ipv4.toList_render, Ipv4.parse?, hnone, Ipv6.parse?_mapped,
        Ipv6.eq_toMapped hmapped]
      rfl
    | none =>
      have hnone : Ipv4.read? x.renderCompressed.toList = none :=
        Ipv4.read?_of_notMem fun hc =>
          absurd rfl (Ipv6.of_mem_renderCompressed (p := (· ≠ '.')) (by decide) hc)
      dsimp only
      rw [Ipv4.parse?, hnone, Ipv6.parse?_renderCompressed]
      rfl

/-- An address and its mapped form have the same canonical form. -/
theorem canonical_toMapped (y : Ipv4) : (v6 y.toMapped).canonical = (v4 y).canonical := by
  simp only [canonical, Ipv6.mapped?_toMapped]

end IpAddress

end FlowAudit
