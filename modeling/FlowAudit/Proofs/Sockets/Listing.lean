import FlowAudit.Sockets.Table
import FlowAudit.Proofs.Conntrack.Listing

/-!
# Socket tables as the kernel writes them

The kernel writes a socket as a row (`Socket.rowText`), whose endpoints stand in words of capital
digits with the least significant octet first (`Socket.endpointText`). A row whose words cannot make
up a socket is described by `Socket.Unreadable`. However a table is put together from rows of both
kinds, what is read from it are the sockets of its rows of the first kind, in their order
(`Socket.parseTable_tableText`).
-/

namespace FlowAudit

namespace Text

/-! ### Words at a distance -/

/-- Words, each behind the given number of blanks. -/
def spaced (pieces : List (Nat × List Char)) : List Char :=
  pieces.flatMap fun piece => List.replicate piece.1 ' ' ++ piece.2

theorem spells_spaced {pieces : List (Nat × List Char)}
    (hwords : ∀ piece ∈ pieces, IsWord piece.2) (hgaps : ∀ piece ∈ pieces.tail, 0 < piece.1) :
    Spells (spaced pieces) (pieces.map Prod.snd) := by
  have hblank : isBlank ' ' = true := by decide
  induction pieces with
  | nil => exact .blank (List.forall_mem_nil _)
  | cons piece pieces ih =>
    rw [List.forall_mem_cons] at hwords
    rw [List.tail_cons] at hgaps
    have hrest := ih hwords.2 fun piece hpiece => hgaps piece (List.mem_of_mem_tail hpiece)
    have hgap : ∀ c ∈ (spaced pieces).head?, isBlank c = true := by
      intro c hc
      cases pieces with
      | nil => cases hc
      | cons next pieces =>
        obtain ⟨k, hk⟩ := Nat.exists_eq_add_one.mpr (hgaps next List.mem_cons_self)
        rw [spaced, List.flatMap_cons, hk, List.replicate_succ] at hc
        obtain rfl : ' ' = c := by simpa using hc
        exact hblank
    rw [spaced, List.flatMap_cons, List.append_assoc]
    refine .word (fun c hc => ?_) hwords.1 hgap hrest
    rw [List.eq_of_mem_replicate hc]
    exact hblank

theorem eq_or_exists_of_mem_spaced {pieces : List (Nat × List Char)} {c : Char}
    (hc : c ∈ spaced pieces) : c = ' ' ∨ ∃ piece ∈ pieces, c ∈ piece.2 := by
  obtain ⟨piece, hpiece, hc⟩ := List.mem_flatMap.mp hc
  rcases List.mem_append.mp hc with hc | hc
  · exact .inl (List.eq_of_mem_replicate hc)
  · exact .inr ⟨piece, hpiece, hc⟩

/-! ### Lines behind the first -/

/-- Behind the first line of a text stand the lines of its rest. -/
theorem drop_one_lines_append {s : List Char} (hs : '\n' ∉ s) (ending : LineEnd)
    (rest : List Char) : (lines (s ++ ending.text ++ rest)).drop 1 = lines rest := by
  have hfrom (s pending : List Char) (hs : '\n' ∉ s) :
      (linesFrom pending (s ++ '\n' :: rest)).drop 1 = lines rest := by
    induction s generalizing pending with
    | nil => rfl
    | cons c s ih =>
      rw [List.mem_cons, not_or] at hs
      rw [List.cons_append, linesFrom_cons_of_ne fun h => hs.1 h.symm]
      exact ih _ hs.2
  cases ending with
  | lineFeed =>
    rw [LineEnd.text, List.append_assoc]
    exact hfrom s [] hs
  | carriageReturn =>
    have hreturn : '\n' ∉ s ++ ['\r'] := by simpa using hs
    have hsplit : s ++ LineEnd.carriageReturn.text ++ rest = s ++ ['\r'] ++ '\n' :: rest := by
      simp [LineEnd.text]
    rw [hsplit]
    exact hfrom _ [] hreturn

/-- What is read from words only is not read from blank lines. -/
theorem filterMap_wordLines {α : Type} {f : List (List Char) → Option α} (hf : f [] = none)
    (s : List Char) :
    (lines s).filterMap (fun line => f (words line)) = (wordLines s).filterMap f := by
  rw [wordLines, List.filterMap_filter, List.filterMap_map]
  congr 1
  funext line
  cases hwords : words line with
  | nil => simp [hwords, hf]
  | cons w ws => simp [hwords]

end Text

open Text (Spells LineEnd joinLines wordLines)

namespace Socket

/-! ### Endpoints -/

/-- The word that the kernel holds in four octets, the first of which is the least significant. -/
def wordOfOctets (a b c d : UInt8) : Nat :=
  a.toNat + 0x100 * b.toNat + 0x10000 * c.toNat + 0x1000000 * d.toNat

/-- Octets as words of eight capital digits. -/
def wordsText : List UInt8 → List Char
  | a :: b :: c :: d :: rest => Text.capitals 8 (wordOfOctets a b c d) ++ wordsText rest
  | _ => []

/-- An address as the kernel writes it. -/
def addressText : IpAddress → List Char
  | .v4 x => wordsText x.octets
  | .v6 x => wordsText x.octets

/-- An endpoint as the kernel writes it. -/
def endpointText (e : Endpoint) : List Char :=
  addressText e.address ++ ':' :: Text.capitals 4 e.port.toNat

example : endpointText ⟨.v4 ⟨172, 16, 144, 102⟩, 59325, 0⟩ = "669010AC:E7BD".toList := by
  cbv

theorem wordOfOctets_lt (a b c d : UInt8) : wordOfOctets a b c d < 16 ^ (7 + 1) := by
  have ha := a.toNat_lt
  have hb := b.toNat_lt
  have hc := c.toNat_lt
  have hd := d.toNat_lt
  rw [wordOfOctets]
  omega

theorem length_capitals_wordOfOctets (a b c d : UInt8) :
    (Text.capitals 8 (wordOfOctets a b c d)).length = 8 :=
  Text.length_capitals (wordOfOctets_lt a b c d)

theorem octetsOfWord?_capitals (a b c d : UInt8) :
    octetsOfWord? (Text.capitals 8 (wordOfOctets a b c d)) = some [a, b, c, d] := by
  have hlimit : wordOfOctets a b c d ≤ Text.maxOfBits 32 :=
    Nat.le_sub_one_of_lt (wordOfOctets_lt a b c d)
  have hoctet {n : Nat} {o : UInt8} (h : n % 256 = o.toNat) : UInt8.ofNat n = o :=
    UInt8.toNat_inj.mp (by rw [UInt8.toNat_ofNat', h])
  have ha := a.toNat_lt
  have hb := b.toNat_lt
  have hc := c.toNat_lt
  have hd := d.toNat_lt
  have hfirst : UInt8.ofNat (wordOfOctets a b c d) = a := hoctet (by rw [wordOfOctets]; omega)
  have hsecond : UInt8.ofNat (wordOfOctets a b c d / 0x100) = b :=
    hoctet (by rw [wordOfOctets]; omega)
  have hthird : UInt8.ofNat (wordOfOctets a b c d / 0x10000) = c :=
    hoctet (by rw [wordOfOctets]; omega)
  have hfourth : UInt8.ofNat (wordOfOctets a b c d / 0x1000000) = d :=
    hoctet (by rw [wordOfOctets]; omega)
  rw [octetsOfWord?, Text.unsigned?_capitals hlimit]
  simp only [Option.bind_eq_bind, Option.bind_some, hfirst, hsecond, hthird, hfourth]
  rfl

/-- The sixteen octets of an address make it up. -/
theorem ipv6OfOctets?_octets (x : Ipv6) : ipv6OfOctets? x.octets = some x := by
  have hoctets : ipv6OfOctets? x.octets =
      some ⟨Ipv6.groupOfOctets (x.g0 >>> 8).toUInt8 x.g0.toUInt8,
        Ipv6.groupOfOctets (x.g1 >>> 8).toUInt8 x.g1.toUInt8,
        Ipv6.groupOfOctets (x.g2 >>> 8).toUInt8 x.g2.toUInt8,
        Ipv6.groupOfOctets (x.g3 >>> 8).toUInt8 x.g3.toUInt8,
        Ipv6.groupOfOctets (x.g4 >>> 8).toUInt8 x.g4.toUInt8,
        Ipv6.groupOfOctets (x.g5 >>> 8).toUInt8 x.g5.toUInt8,
        Ipv6.groupOfOctets (x.g6 >>> 8).toUInt8 x.g6.toUInt8,
        Ipv6.groupOfOctets (x.g7 >>> 8).toUInt8 x.g7.toUInt8⟩ := rfl
  rw [hoctets]
  simp only [Ipv6.groupOfOctets_octets]

/-- Four words are read one behind the other. -/
theorem address?_append {u v w z : List Char} (hu : u.length = 8) (hv : v.length = 8)
    (hw : w.length = 8) (hz : z.length = 8) :
    address? (u ++ (v ++ (w ++ z))) = (do
      let a ← octetsOfWord? u
      let b ← octetsOfWord? v
      let c ← octetsOfWord? w
      let d ← octetsOfWord? z
      return .v6 (← ipv6OfOctets? (a ++ b ++ c ++ d))) := by
  have hlength : (u ++ (v ++ (w ++ z))).length = 32 := by
    simp [hu, hv, hw, hz]
  have hdropu : (u ++ (v ++ (w ++ z))).drop 8 = v ++ (w ++ z) := List.drop_left' hu
  have hdropv : (u ++ (v ++ (w ++ z))).drop 16 = w ++ z := by
    rw [← List.append_assoc]
    exact List.drop_left' (by simp [hu, hv])
  have hdropw : (u ++ (v ++ (w ++ z))).drop 24 = z := by
    rw [← List.append_assoc, ← List.append_assoc]
    exact List.drop_left' (by simp [hu, hv, hw])
  rw [address?, if_neg (by omega), if_pos hlength, hdropu, hdropv, hdropw, List.take_left' hu,
    List.take_left' hv, List.take_left' hw]

/-- An address that the kernel writes is read as this address. -/
theorem address?_addressText (x : IpAddress) : address? (addressText x) = some x := by
  cases x with
  | v4 x =>
    have htext : addressText (.v4 x) = Text.capitals 8 (wordOfOctets x.a x.b x.c x.d) :=
      List.append_nil _
    rw [htext, address?, if_pos (length_capitals_wordOfOctets ..), octetsOfWord?_capitals]
    rfl
  | v6 x =>
    have hread := ipv6OfOctets?_octets x
    rw [addressText]
    generalize x.octets = octets at hread
    unfold ipv6OfOctets? at hread
    split at hread
    · rename_i a b c d e f g h i j k l m n o p
      simp only [wordsText, List.append_nil]
      rw [address?_append (length_capitals_wordOfOctets ..) (length_capitals_wordOfOctets ..)
        (length_capitals_wordOfOctets ..) (length_capitals_wordOfOctets ..)]
      simp only [octetsOfWord?_capitals, Option.bind_eq_bind, Option.bind_some]
      exact congrArg (Option.map IpAddress.v6) hread
    · cases hread

/-- What holds of all digits and capitals holds of the characters of words. -/
theorem of_mem_wordsText {p : Char → Prop} (h : "0123456789ABCDEF".toList.Forall p)
    {octets : List UInt8} {c : Char} (hc : c ∈ wordsText octets) : p c := by
  induction octets using wordsText.induct with
  | case1 a b c' d rest ih =>
    rw [wordsText, List.mem_append] at hc
    rcases hc with hc | hc
    · exact Text.of_mem_capitals h hc
    · exact ih hc
  | case2 octets hne =>
    rw [wordsText] at hc
    · cases hc
    · exact hne

/-- What holds of all digits and capitals and of the colon holds of the characters of an
endpoint. -/
theorem of_mem_endpointText {p : Char → Prop} (h : ":0123456789ABCDEF".toList.Forall p)
    {e : Endpoint} {c : Char} (hc : c ∈ endpointText e) : p c := by
  obtain ⟨hcolon, hdigits⟩ := (List.forall_cons _ _ _).mp h
  rw [endpointText, List.mem_append, List.mem_cons] at hc
  rcases hc with hc | rfl | hc
  · cases hx : e.address <;> rw [hx] at hc <;> exact of_mem_wordsText hdigits hc
  · exact hcolon
  · exact Text.of_mem_capitals hdigits hc

/-- An endpoint that the kernel writes is read as this endpoint; the kernel writes no scope. -/
theorem endpoint?_endpointText (e : Endpoint) : endpoint? (endpointText e) = some e.unscoped := by
  have hcolon : ':' ∉ addressText e.address := by
    intro hmem
    cases hx : e.address <;> rw [hx] at hmem <;>
      exact of_mem_wordsText (p := fun c => c ≠ ':') (by decide) hmem rfl
  have hport : e.port.toNat ≤ Text.maxOfBits 16 := Nat.le_sub_one_of_lt e.port.toNat_lt
  rw [endpoint?, endpointText, Text.splitOnce?_append hcolon]
  simp only [Option.bind_eq_bind, Option.bind_some, Text.unsigned?_capitals hport,
    address?_addressText, UInt16.ofNat_toNat]
  rfl

/-! ### Rows that cannot be read -/

/-- Whether a word cannot be read as an endpoint. -/
inductive UnreadableEndpoint (word : List Char) : Prop
  | colon (h : ':' ∉ word)
  | port {digits port : List Char} (hword : word = digits ++ ':' :: port) (hdigits : ':' ∉ digits)
    (h : Text.unsigned? 16 (Text.maxOfBits 16) port = none)
  | length {digits port : List Char} (hword : word = digits ++ ':' :: port)
    (hdigits : ':' ∉ digits) (h : digits.length ≠ 8 ∧ digits.length ≠ 32)
  /-- One of the words of the address is not a number of thirty-two bits. -/
  | octets {digits port : List Char} (hword : word = digits ++ ':' :: port)
    (hdigits : ':' ∉ digits) (i : Nat) (hi : 8 * i < digits.length)
    (h : Text.unsigned? 16 (Text.maxOfBits 32) ((digits.drop (8 * i)).take 8) = none)

/-- Whether the words of a row make up no socket. -/
inductive Unreadable (ws : List (List Char)) : Prop
  | short (h : ws.length < 10)
  | here {w : List Char} (hw : ws[1]? = some w) (h : UnreadableEndpoint w)
  | remote {w : List Char} (hw : ws[2]? = some w) (h : UnreadableEndpoint w)
  | state {w : List Char} (hw : ws[3]? = some w)
    (h : Text.unsigned? 16 (Text.maxOfBits 8) w = none)
  | uid {w : List Char} (hw : ws[7]? = some w)
    (h : Text.unsigned? 10 (Text.maxOfBits 32) w = none)
  | inode {w : List Char} (hw : ws[9]? = some w)
    (h : Text.unsigned? 10 (Text.maxOfBits 64) w = none)

/-- A word in hexadecimal gives four octets, or none. -/
theorem octetsOfWord?_spec (w : List Char) :
    (∃ a b c d, octetsOfWord? w = some [a, b, c, d]) ∨ octetsOfWord? w = none := by
  rw [octetsOfWord?]
  cases Text.unsigned? 16 (Text.maxOfBits 32) w with
  | none => exact .inr rfl
  | some n => exact .inl ⟨_, _, _, _, rfl⟩

theorem octetsOfWord?_eq_none_iff {w : List Char} :
    octetsOfWord? w = none ↔ Text.unsigned? 16 (Text.maxOfBits 32) w = none := by
  rw [octetsOfWord?]
  cases Text.unsigned? 16 (Text.maxOfBits 32) w <;> simp

section Words

variable {digits : List Char}

/-- Eight digits are one word. -/
theorem address?_of_length_eight (hlength : digits.length = 8) : address? digits = none ↔
    ∃ i, 8 * i < digits.length ∧
      Text.unsigned? 16 (Text.maxOfBits 32) ((digits.drop (8 * i)).take 8) = none := by
  have hwhole : (digits.drop (8 * 0)).take 8 = digits :=
    List.take_of_length_le (by simp [hlength])
  have hword : (∃ i, 8 * i < digits.length ∧
      Text.unsigned? 16 (Text.maxOfBits 32) ((digits.drop (8 * i)).take 8) = none) ↔
        octetsOfWord? digits = none := by
    rw [octetsOfWord?_eq_none_iff]
    constructor
    · rintro ⟨i, hi, h⟩
      obtain rfl : i = 0 := by omega
      rwa [hwhole] at h
    · intro h
      exact ⟨0, by omega, by rwa [hwhole]⟩
  rw [hword, address?, if_pos hlength]
  rcases octetsOfWord?_spec digits with ⟨a, b, c, d, h⟩ | h
  · simp [h, Ipv4.ofOctets?]
  · simp [h]

/-- Four times eight digits are four words. -/
theorem address?_of_length_four_words (hlength : digits.length = 32) : address? digits = none ↔
    ∃ i, 8 * i < digits.length ∧
      Text.unsigned? 16 (Text.maxOfBits 32) ((digits.drop (8 * i)).take 8) = none := by
  have hlast : digits.drop 24 = (digits.drop (8 * 3)).take 8 :=
    (List.take_of_length_le (by simp [hlength])).symm
  have hwords : (∃ i, 8 * i < digits.length ∧
      Text.unsigned? 16 (Text.maxOfBits 32) ((digits.drop (8 * i)).take 8) = none) ↔
        octetsOfWord? (digits.take 8) = none ∨
          octetsOfWord? ((digits.drop 8).take 8) = none ∨
          octetsOfWord? ((digits.drop 16).take 8) = none ∨
          octetsOfWord? (digits.drop 24) = none := by
    rw [hlast]
    simp only [octetsOfWord?_eq_none_iff]
    constructor
    · rintro ⟨i, hi, h⟩
      obtain rfl | rfl | rfl | rfl : i = 0 ∨ i = 1 ∨ i = 2 ∨ i = 3 := by omega
      · exact .inl h
      · exact .inr (.inl h)
      · exact .inr (.inr (.inl h))
      · exact .inr (.inr (.inr h))
    · rintro (h | h | h | h)
      · exact ⟨0, by omega, h⟩
      · exact ⟨1, by omega, h⟩
      · exact ⟨2, by omega, h⟩
      · exact ⟨3, by omega, h⟩
  rw [hwords, address?, if_neg (by omega), if_pos hlength]
  rcases octetsOfWord?_spec (digits.take 8) with ⟨_, _, _, _, ha⟩ | ha
  · rcases octetsOfWord?_spec ((digits.drop 8).take 8) with ⟨_, _, _, _, hb⟩ | hb
    · rcases octetsOfWord?_spec ((digits.drop 16).take 8) with ⟨_, _, _, _, hc⟩ | hc
      · rcases octetsOfWord?_spec (digits.drop 24) with ⟨_, _, _, _, hd⟩ | hd
        · simp [ha, hb, hc, hd, ipv6OfOctets?]
        · simp [ha, hb, hc, hd]
      · simp [ha, hb, hc]
    · simp [ha, hb]
  · simp [ha]

/-- Digits make up no address if they are not as many as those of one word or of four, or one of
their words cannot be read. -/
theorem address?_eq_none_iff : address? digits = none ↔
    (digits.length ≠ 8 ∧ digits.length ≠ 32) ∨ ∃ i, 8 * i < digits.length ∧
      Text.unsigned? 16 (Text.maxOfBits 32) ((digits.drop (8 * i)).take 8) = none := by
  by_cases hshort : digits.length = 8
  · rw [address?_of_length_eight hshort]
    simp [hshort]
  · by_cases hlong : digits.length = 32
    · rw [address?_of_length_four_words hlong]
      simp [hlong]
    · rw [address?, if_neg hshort, if_neg hlong]
      exact iff_of_true rfl (.inl ⟨hshort, hlong⟩)

end Words

theorem endpoint?_eq_none_iff {word : List Char} :
    endpoint? word = none ↔ UnreadableEndpoint word := by
  rw [endpoint?]
  cases hsplit : Text.splitOnce? ':' word with
  | none => exact iff_of_true rfl (.colon (Text.splitOnce?_eq_none_iff.mp hsplit))
  | some parts =>
    obtain ⟨digits, port⟩ := parts
    obtain ⟨hword, hdigits⟩ := Text.eq_of_splitOnce? hsplit
    -- a word is split in one way only
    have hsame {digits' port' : List Char} (hword' : word = digits' ++ ':' :: port')
        (hdigits' : ':' ∉ digits') : digits' = digits ∧ port' = port := by
      have hsplit' := Text.splitOnce?_append hdigits' port'
      rw [← hword', hsplit] at hsplit'
      exact ⟨(Prod.mk.inj (Option.some.inj hsplit')).1.symm,
        (Prod.mk.inj (Option.some.inj hsplit')).2.symm⟩
    have hiff : UnreadableEndpoint word ↔
        Text.unsigned? 16 (Text.maxOfBits 16) port = none ∨ address? digits = none := by
      rw [address?_eq_none_iff]
      constructor
      · rintro (h | ⟨hword', hdigits', h⟩ | ⟨hword', hdigits', h⟩ | ⟨hword', hdigits', i, hi, h⟩)
        · exact absurd (by rw [hword]; simp) h
        · obtain ⟨rfl, rfl⟩ := hsame hword' hdigits'
          exact .inl h
        · obtain ⟨rfl, rfl⟩ := hsame hword' hdigits'
          exact .inr (.inl h)
        · obtain ⟨rfl, rfl⟩ := hsame hword' hdigits'
          exact .inr (.inr ⟨i, hi, h⟩)
      · rintro (h | h | ⟨i, hi, h⟩)
        · exact .port hword hdigits h
        · exact .length hword hdigits h
        · exact .octets hword hdigits i hi h
    rw [hiff]
    simp only [Option.bind_eq_bind, Option.bind_some]
    cases Text.unsigned? 16 (Text.maxOfBits 16) port <;> cases address? digits <;> simp

/-- The words of a row make up no socket if there are too few of them, or one that counts cannot be
read. -/
theorem ofWords?_eq_none_iff {ws : List (List Char)} : ofWords? ws = none ↔ Unreadable ws := by
  by_cases hlength : ws.length < 10
  · refine iff_of_true ?_ (.short hlength)
    rw [ofWords?]
    intro slot here remote state queues timer retransmits uid timeout inode further hws
    rw [hws] at hlength
    simp at hlength
    omega
  · obtain _ | ⟨slot, _ | ⟨here, _ | ⟨remote, _ | ⟨state, _ | ⟨queues, _ | ⟨timer, _ | ⟨retransmits,
      _ | ⟨uid, _ | ⟨timeout, _ | ⟨inode, further⟩⟩⟩⟩⟩⟩⟩⟩⟩⟩ := ws
    iterate 10 exact absurd (by simp) hlength
    have hiff : Unreadable (slot :: here :: remote :: state :: queues :: timer :: retransmits ::
        uid :: timeout :: inode :: further) ↔ endpoint? here = none ∨ endpoint? remote = none ∨
          Text.unsigned? 16 (Text.maxOfBits 8) state = none ∨
          Text.unsigned? 10 (Text.maxOfBits 32) uid = none ∨
          Text.unsigned? 10 (Text.maxOfBits 64) inode = none := by
      simp only [endpoint?_eq_none_iff]
      constructor
      · rintro (h | ⟨hw, h⟩ | ⟨hw, h⟩ | ⟨hw, h⟩ | ⟨hw, h⟩ | ⟨hw, h⟩)
        · exact absurd h hlength
        all_goals
          cases hw
          simp only [h, true_or, or_true]
      · rintro (h | h | h | h | h)
        · exact .here rfl h
        · exact .remote rfl h
        · exact .state rfl h
        · exact .uid rfl h
        · exact .inode rfl h
    rw [hiff, ofWords?]
    cases endpoint? here <;> cases endpoint? remote <;>
      cases Text.unsigned? 16 (Text.maxOfBits 8) state <;>
      cases Text.unsigned? 10 (Text.maxOfBits 32) uid <;>
      cases Text.unsigned? 10 (Text.maxOfBits 64) inode <;> simp

/-! ### Lines and tables -/

/-- The socket without scopes, of which the kernel writes none. -/
def unscoped (s : Socket) : Socket :=
  { s with here := s.here.unscoped, remote := s.remote.unscoped }

/-- A row of a socket: its endpoints, state, owner and inode in their places, and any words in the
other ones. -/
structure ListedRow where
  text : List Char
  socket : Socket
  slot : List Char
  queues : List Char
  timer : List Char
  retransmits : List Char
  timeout : List Char
  /-- The words behind the inode. -/
  further : List (List Char)
  single : '\n' ∉ text
  spells : Spells text (slot :: endpointText socket.here :: endpointText socket.remote ::
    Text.capitals 2 socket.state.toNat :: queues :: timer :: retransmits ::
    (toString socket.uid.toNat).toList :: timeout :: (toString socket.inode.toNat).toList ::
    further)

/-- The words of the row make up the socket. -/
theorem ofWords?_row (s : Socket) (slot queues timer retransmits timeout : List Char)
    (further : List (List Char)) :
    ofWords? (slot :: endpointText s.here :: endpointText s.remote ::
      Text.capitals 2 s.state.toNat :: queues :: timer :: retransmits ::
      (toString s.uid.toNat).toList :: timeout :: (toString s.inode.toNat).toList :: further) =
        some s.unscoped := by
  have hstate : s.state.toNat ≤ Text.maxOfBits 8 := Nat.le_sub_one_of_lt s.state.toNat_lt
  have huid : s.uid.toNat ≤ Text.maxOfBits 32 := Nat.le_sub_one_of_lt s.uid.toNat_lt
  have hinode : s.inode.toNat ≤ Text.maxOfBits 64 := Nat.le_sub_one_of_lt s.inode.toNat_lt
  simp only [ofWords?, endpoint?_endpointText, Text.unsigned?_capitals hstate,
    Text.unsigned?_toString huid, Text.unsigned?_toString hinode, Option.bind_eq_bind,
    Option.bind_some, UInt8.ofNat_toNat, UInt32.ofNat_toNat, UInt64.ofNat_toNat]
  rfl

/-- A line of a table below the headings. -/
inductive Line where
  /-- A row of a socket. -/
  | listed (row : ListedRow)
  /-- A line that makes up no socket, such as a blank one. -/
  | unreadable (text : List Char) (words : List (List Char)) (single : '\n' ∉ text)
    (unreadable : Unreadable words) (spells : Spells text words)

namespace Line

def text : Line → List Char
  | listed row => row.text
  | unreadable text .. => text

/-- What the line lists, if it lists a socket. -/
def socket? : Line → Option Socket
  | listed row => some row.socket.unscoped
  | unreadable .. => none

theorem notMem_text (line : Line) : '\n' ∉ line.text := by
  cases line with
  | listed row => exact row.single
  | unreadable _ _ single => exact single

/-- What is read from a line is what it lists. -/
theorem filterMap_wordLines_text (line : Line) :
    (wordLines line.text).filterMap ofWords? = line.socket?.toList := by
  rw [Text.wordLines_of_notMem line.notMem_text]
  cases line with
  | listed row =>
    rw [text, row.spells.words_eq, if_neg (by simp), List.filterMap_cons, ofWords?_row]
    rfl
  | unreadable text words single unreadable spells =>
    have hwords := ofWords?_eq_none_iff.mpr unreadable
    rw [Line.text, spells.words_eq]
    split
    · rfl
    · rw [List.filterMap_cons, hwords]
      rfl

end Line

/-- A table: the line of its headings, and the lines below, each with its end but the last. -/
structure TableText where
  headings : List Char
  ending : LineEnd
  lines : List (Line × LineEnd)
  last : Line
  single : '\n' ∉ headings

namespace TableText

def text (t : TableText) : String :=
  .ofList (joinLines ((t.headings, t.ending) :: t.lines.map fun line => (line.1.text, line.2))
    t.last.text)

/-- The sockets that the rows of the table list, in their order. -/
def sockets (t : TableText) : List Socket :=
  (t.lines.map Prod.fst ++ [t.last]).filterMap Line.socket?

end TableText

theorem parseTable_text (t : TableText) : parseTable t.text = t.sockets := by
  have hsingle : ∀ line ∈ t.lines.map (fun line => (line.1.text, line.2)), '\n' ∉ line.1 := by
    intro line hline
    obtain ⟨line', -, rfl⟩ := List.mem_map.mp hline
    exact line'.1.notMem_text
  have hbelow : (Text.lines t.text.toList).drop 1 = Text.lines
      (joinLines (t.lines.map fun line => (line.1.text, line.2)) t.last.text) := by
    rw [TableText.text, String.toList_ofList, Text.joinLines_cons,
      Text.drop_one_lines_append t.single]
  rw [parseTable, hbelow, Text.filterMap_wordLines rfl, Text.wordLines_joinLines hsingle,
    TableText.sockets, List.filterMap_append, List.filterMap_append, List.flatMap_map,
    List.filterMap_flatMap, List.filterMap_map]
  simp only [Line.filterMap_wordLines_text]
  rw [List.filterMap_eq_flatMap_toList, List.filterMap_eq_flatMap_toList, List.flatMap_singleton]
  rfl

/-! ### Rows of the kernel -/

/-- The headings that the kernel writes. -/
def headings : List Char :=
  ("  sl  local_address rem_address   st tx_queue rx_queue tr tm->when retrnsmt   uid  timeout " ++
    "inode").toList

/-- The words of a row of the kernel, with the number of blanks in front of each; the number of the
row and the owner are flush right. -/
def rowPieces (slot : Nat) (s : Socket) : List (Nat × List Char) :=
  let number := (toString slot).toList
  let uid := (toString s.uid.toNat).toList
  [(4 - number.length, number ++ [':']), (1, endpointText s.here), (1, endpointText s.remote),
    (1, Text.capitals 2 s.state.toNat), (1, "00000000:00000000".toList), (1, "00:00000000".toList),
    (1, "00000000".toList), (1 + (5 - uid.length), uid), (1, ['0']),
    (1, (toString s.inode.toNat).toList), (1, ['1']), (1, "0000000000000000".toList),
    (1, "20".toList), (1, ['4']), (1, "30".toList), (1, "10".toList), (1, "-1".toList)]

/-- The row that the kernel writes for a socket. -/
def rowText (slot : Nat) (s : Socket) : List Char :=
  Text.spaced (rowPieces slot s)

/-- The table that the kernel writes for sockets, each with the number of its row. -/
def tableText (rows : List (Nat × Socket)) : String :=
  .ofList (joinLines ((headings, .lineFeed) :: rows.map fun row => (rowText row.1 row.2, .lineFeed))
    [])

theorem isWord_of_mem_rowPieces (slot : Nat) (s : Socket) :
    ∀ piece ∈ rowPieces slot s, Text.IsWord piece.2 := by
  have hplain {w : List Char} (hne : w ≠ []) (h : w.Forall (Text.isBlank · = false)) :
      Text.IsWord w := ⟨hne, List.forall_iff_forall_mem.mp h⟩
  have hnumber (n : Nat) : Text.IsWord (toString n).toList := by
    refine ⟨?_, Conntrack.isBlank_of_mem_toString⟩
    rw [Nat.toString_eq_repr, Nat.toList_repr]
    exact Nat.toDigits_ne_nil
  have hendpoint (e : Endpoint) : Text.IsWord (endpointText e) :=
    ⟨by simp [endpointText],
      fun _ => of_mem_endpointText (p := fun c => Text.isBlank c = false) (by decide)⟩
  have hstate : Text.IsWord (Text.capitals 2 s.state.toNat) := by
    refine ⟨?_, fun _ => Text.of_mem_capitals (p := fun c => Text.isBlank c = false) (by decide)⟩
    rw [← List.length_pos_iff, Text.length_capitals (k := 1) s.state.toNat_lt]
    decide
  have hslot : Text.IsWord ((toString slot).toList ++ [':']) :=
    ⟨by simp, List.forall_mem_append.mpr
      ⟨(hnumber slot).not_blank, List.forall_mem_singleton.mpr (by decide)⟩⟩
  simp only [rowPieces, List.forall_mem_cons, List.not_mem_nil, false_imp_iff, implies_true,
    and_true]
  exact ⟨hslot, hendpoint _, hendpoint _, hstate, hplain (by decide) (by decide),
    hplain (by decide) (by decide), hplain (by decide) (by decide), hnumber _,
    hplain (by decide) (by decide), hnumber _, hplain (by decide) (by decide),
    hplain (by decide) (by decide), hplain (by decide) (by decide), hplain (by decide) (by decide),
    hplain (by decide) (by decide), hplain (by decide) (by decide), hplain (by decide) (by decide)⟩

/-- Every socket is listed by the row that the kernel writes for it. -/
def ListedRow.ofSocket (slot : Nat) (s : Socket) : ListedRow where
  text := rowText slot s
  socket := s
  slot := (toString slot).toList ++ [':']
  queues := "00000000:00000000".toList
  timer := "00:00000000".toList
  retransmits := "00000000".toList
  timeout := ['0']
  further := [['1'], "0000000000000000".toList, "20".toList, ['4'], "30".toList, "10".toList,
    "-1".toList]
  single := fun hc => by
    rcases Text.eq_or_exists_of_mem_spaced hc with hc | ⟨piece, hpiece, hc⟩
    · cases hc
    · cases (isWord_of_mem_rowPieces slot s piece hpiece).not_blank '\n' hc
  spells := Text.spells_spaced (isWord_of_mem_rowPieces slot s)
    (by simp only [rowPieces, List.tail_cons, List.mem_cons, List.not_mem_nil, or_false,
      forall_eq_or_imp, forall_eq, Nat.lt_add_one, Nat.add_pos_left, and_self])

/-- The table that the kernel writes, line by line; behind its last line feed stands nothing. -/
def kernelTable (rows : List (Nat × Socket)) : TableText where
  headings := headings
  ending := .lineFeed
  lines := rows.map fun row => (.listed (.ofSocket row.1 row.2), .lineFeed)
  last := .unreadable [] [] List.not_mem_nil (.short (by decide)) (.blank (List.forall_mem_nil _))
  single := by decide

/-- From a table are read the sockets of its rows, in their order, however the lines end and
whatever stands in the other columns; a line that makes up no socket changes nothing. In particular
the sockets for which the kernel writes a table are read back from it. -/
theorem parseTable_tableText :
    (∀ t : TableText, parseTable t.text = t.sockets) ∧
      ∀ rows : List (Nat × Socket),
        parseTable (tableText rows) = rows.map fun row => row.2.unscoped := by
  refine ⟨parseTable_text, fun rows => ?_⟩
  have htext : tableText rows = (kernelTable rows).text := by
    rw [tableText, TableText.text, kernelTable, List.map_map]
    rfl
  have hsockets : (kernelTable rows).sockets = rows.map fun row => row.2.unscoped := by
    rw [TableText.sockets, kernelTable, List.filterMap_append, List.map_map, List.filterMap_map]
    simp [Function.comp_def, Line.socket?, ListedRow.ofSocket]
  rw [htext, parseTable_text, hsockets]

end Socket

end FlowAudit
