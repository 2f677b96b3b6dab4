import Mathlib.Data.List.Induction
import FlowAudit.Proofs.Conntrack.Row

/-!
# How far a row is read

A row of a protocol that is followed is read up to the word at which the last of the four keys is
first seen (`Completes`). The words up to there decide what the row says. It lists a connection if
they give a value for each key and the first value for each key can be read; the connection is then
made of these first values (`Entry.MadeOf`), and otherwise the row cannot be read. What stands
behind that word makes no difference (`Row.parse_of_number`).
-/

namespace FlowAudit.Conntrack

/-! ### First values -/

namespace Key

variable {key : Key} {w value : List Char} {ws front back : List (List Char)}

/-- A value is the first one that the words give for the key. -/
def IsFirst (key : Key) (ws : List (List Char)) (value : List Char) : Prop :=
  ∃ front back, ws = front ++ key.word value :: back ∧ ∀ w ∈ front, ∀ u, w ≠ key.word u

theorem value?_eq_none_iff : key.value? w = none ↔ ∀ u, w ≠ key.word u := by
  rw [Option.eq_none_iff_forall_ne_some]
  exact forall_congr' fun u => not_congr value?_eq_some_iff

theorem first?_eq_some_iff : key.first? ws = some value ↔ key.IsFirst ws value := by
  rw [first?, List.findSome?_eq_some_iff]
  constructor
  · rintro ⟨front, w, back, hws, hw, hfront⟩
    rw [value?_eq_some_iff] at hw
    exact ⟨front, back, hw ▸ hws, fun v hv => value?_eq_none_iff.mp (hfront v hv)⟩
  · rintro ⟨front, back, hws, hfront⟩
    exact ⟨front, _, back, hws, value?_eq_some_iff.mpr rfl,
      fun v hv => value?_eq_none_iff.mpr (hfront v hv)⟩

theorem IsFirst.mem (h : key.IsFirst ws value) : key.word value ∈ ws := by
  obtain ⟨front, back, rfl, -⟩ := h
  exact List.mem_append_right _ List.mem_cons_self

/-- Behind the first value for a key nothing counts for it. -/
theorem first?_append_of_mem (h : key.word value ∈ front) (back : List (List Char)) :
    key.first? (front ++ back) = key.first? front := by
  have hsome : (key.first? front).isSome := by
    rw [first?, List.findSome?_isSome_iff]
    exact ⟨_, h, by rw [value?_eq_some_iff.mpr rfl]; rfl⟩
  rw [first?_append, Option.or_of_isSome hsome]

end Key

/-! ### The word that completes a row -/

/-- The last of the four keys is first seen at the word `w`, behind those of `front`. -/
structure Completes (front : List (List Char)) (w : List Char) : Prop where
  /-- With `w` every key has been seen. -/
  seen : ∀ key : Key, ∃ value, key.word value ∈ front ++ [w]
  /-- Without it some key has not. -/
  missing : ∃ key : Key, ∀ value, key.word value ∉ front

/-- If all four keys are seen, there is a word at which the last of them is. -/
theorem exists_completes {ws : List (List Char)} (h : ∀ key : Key, ∃ value, key.word value ∈ ws) :
    ∃ front w back, ws = front ++ w :: back ∧ Completes front w := by
  induction ws using List.reverseRecOn with
  | nil =>
    obtain ⟨value, hvalue⟩ := h .sourceAddress
    exact absurd hvalue List.not_mem_nil
  | append_singleton ws w ih =>
    by_cases hws : ∀ key : Key, ∃ value, key.word value ∈ ws
    · obtain ⟨front, v, back, rfl, hv⟩ := ih hws
      exact ⟨front, v, back ++ [w], by simp, hv⟩
    · push Not at hws
      exact ⟨ws, w, [], rfl, h, hws⟩

/-! ### What the words make up -/

/-- An entry is made of the first values that the words of a row give for the four keys; it is live
unless a word in front of the first source address says that the connection is over. -/
structure Entry.MadeOf (e : Entry) (protocol : Protocol) (ws : List (List Char)) : Prop where
  protocol_eq : e.connection.protocol = protocol
  sourceAddress : ∃ value, Key.sourceAddress.IsFirst ws value ∧
    IpAddress.parse? value = some e.connection.sourceAddress
  destinationAddress : ∃ value, Key.destinationAddress.IsFirst ws value ∧
    IpAddress.parse? value = some e.connection.destinationAddress
  sourcePort : ∃ value, Key.sourcePort.IsFirst ws value ∧
    Text.word16? value = some e.connection.sourcePort
  destinationPort : ∃ value, Key.destinationPort.IsFirst ws value ∧
    Text.word16? value = some e.connection.destinationPort
  live_eq : e.live = !saysOver ws

variable {e : Entry} {protocol : Protocol} {ws front back : List (List Char)} {w : List Char}

theorem Fields.settle?_eq_some_iff :
    ({} : Fields).settle? protocol ws = some e ↔ e.MadeOf protocol ws := by
  constructor
  · intro h
    simp only [settle?, Option.none_or, Option.bind_eq_bind, Option.bind_eq_some_iff,
      Key.first?_eq_some_iff] at h
    obtain ⟨x, hx, p, hp, y, hy, q, hq, he⟩ := h
    obtain rfl := Option.some.inj he
    exact ⟨rfl, hx, hy, hp, hq, rfl⟩
  · obtain ⟨⟨protocol', x, p, y, q⟩, live⟩ := e
    rintro ⟨rfl, hx, hy, hp, hq, hlive⟩
    dsimp only at hx hy hp hq hlive
    subst hlive
    simp only [settle?, Option.none_or, Option.bind_eq_bind, Option.bind_eq_some_iff,
      Key.first?_eq_some_iff]
    exact ⟨x, hx, p, hp, y, hy, q, hq, rfl⟩

/-- Once all keys are seen, the words behind make no difference. -/
theorem Fields.settle?_append (h : ∀ key : Key, ∃ value, key.word value ∈ front)
    (back : List (List Char)) :
    ({} : Fields).settle? protocol (front ++ back) = ({} : Fields).settle? protocol front := by
  have hfirst (key : Key) : key.first? (front ++ back) = key.first? front := by
    obtain ⟨value, hvalue⟩ := h key
    exact Key.first?_append_of_mem hvalue back
  obtain ⟨source, hsource⟩ := h .sourceAddress
  simp only [settle?, hfirst, saysOver_append_of_mem hsource]

theorem Fields.settle?_of_completes (h : Completes front w) (back : List (List Char)) :
    ({} : Fields).settle? protocol (front ++ w :: back) =
      ({} : Fields).settle? protocol (front ++ [w]) := by
  rw [List.append_cons, settle?_append h.seen]

/-- An entry is made of the words up to the one at which the last key is first seen. -/
theorem Entry.madeOf_iff : e.MadeOf protocol ws ↔
    ∃ front w back, ws = front ++ w :: back ∧ Completes front w ∧
      e.MadeOf protocol (front ++ [w]) := by
  constructor
  · intro h
    have hseen : ∀ key : Key, ∃ value, key.word value ∈ ws := by
      rintro (_ | _ | _ | _)
      · exact h.sourceAddress.imp fun _ hvalue => hvalue.1.mem
      · exact h.destinationAddress.imp fun _ hvalue => hvalue.1.mem
      · exact h.sourcePort.imp fun _ hvalue => hvalue.1.mem
      · exact h.destinationPort.imp fun _ hvalue => hvalue.1.mem
    obtain ⟨front, w, back, rfl, hw⟩ := exists_completes hseen
    refine ⟨front, w, back, rfl, hw, ?_⟩
    rwa [← Fields.settle?_eq_some_iff, ← Fields.settle?_of_completes hw back,
      Fields.settle?_eq_some_iff]
  · rintro ⟨front, w, back, rfl, hw, h⟩
    rwa [← Fields.settle?_eq_some_iff, Fields.settle?_of_completes hw back,
      Fields.settle?_eq_some_iff]

/-! ### Rows -/

namespace Row

variable {family familyNumber name number line : List Char}

theorem ofWords_eq_entry_iff (h : Text.byte? number = some protocol.number) :
    ofWords (family :: familyNumber :: name :: number :: ws) = .entry e ↔
      e.MadeOf protocol ws := by
  rw [ofWords_of_number h, ← Fields.settle?_eq_some_iff]
  cases ({} : Fields).settle? protocol ws <;> simp

/-- A row of a protocol that is followed lists a connection just when all four keys are seen and
the first value for each of them, which stands no further behind than the word at which the last key
is first seen, can be read; the connection is made of these values. In all other cases the row
cannot be read. What stands behind that word makes no difference, and so neither does any text
behind a row that lists a connection. -/
theorem parse_of_number (hnumber : Text.byte? number = some protocol.number)
    (hwords : Text.words line = family :: familyNumber :: name :: number :: ws) :
    (∀ e, parse line = .entry e ↔ ∃ front w back, ws = front ++ w :: back ∧ Completes front w ∧
      e.MadeOf protocol (front ++ [w])) ∧
    (parse line = .malformed ↔ ¬ ∃ e, parse line = .entry e) ∧
    (∀ front w back, ws = front ++ w :: back → Completes front w → ∀ line' back',
      Text.words line' = family :: familyNumber :: name :: number :: (front ++ w :: back') →
        parse line' = parse line) ∧
    ∀ e, parse line = .entry e → ∀ c more, Text.isBlank c = true →
      parse (line ++ c :: more) = .entry e := by
  have hentry (e : Entry) : parse line = .entry e ↔ e.MadeOf protocol ws := by
    rw [parse, hwords, ofWords_eq_entry_iff hnumber]
  refine ⟨fun e => (hentry e).trans Entry.madeOf_iff, ?_, ?_, ?_⟩
  · rw [parse, hwords, ofWords_of_number hnumber]
    cases ({} : Fields).settle? protocol ws <;> simp
  · rintro front w back rfl hw line' back' hwords'
    rw [parse, hwords', ofWords_of_number hnumber, parse, hwords, ofWords_of_number hnumber,
      Fields.settle?_of_completes hw back', Fields.settle?_of_completes hw back]
  · intro e he c more hc
    obtain ⟨front, w, back, hws, hw, hmade⟩ := Entry.madeOf_iff.mp ((hentry e).mp he)
    have hmore : Text.words (line ++ c :: more) =
        family :: familyNumber :: name :: number :: (ws ++ Text.words more) := by
      rw [Text.words_append_cons hc, hwords]
      rfl
    rw [parse, hmore, ofWords_eq_entry_iff hnumber, Entry.madeOf_iff]
    exact ⟨front, w, back ++ Text.words more, by rw [hws, List.append_assoc]; rfl, hw, hmade⟩

/-- A row with a second source address that cannot be read. -/
def repeatedRow : List Char :=
  "ipv4 2 tcp 6 300 ESTABLISHED sport=4000 src=10.0.0.1 src=nowhere dst=1.1.1.1 dport=443".toList

/-- What the row lists. -/
def repeatedEntry : Entry :=
  ⟨⟨.tcp, .v4 ⟨10, 0, 0, 1⟩, 4000, .v4 ⟨1, 1, 1, 1⟩, 443⟩, true⟩

/-- The row lists the connection with the first source address, whatever stands behind it. -/
theorem parse_repeatedRow :
    Text.byte? "6".toList = some Protocol.tcp.number ∧
      Text.words repeatedRow = ["ipv4", "2", "tcp", "6", "300", "ESTABLISHED", "sport=4000",
        "src=10.0.0.1", "src=nowhere", "dst=1.1.1.1", "dport=443"].map String.toList ∧
      parse repeatedRow = .entry repeatedEntry ∧
      ∀ more, parse (repeatedRow ++ ' ' :: more) = .entry repeatedEntry := by
  have hnumber : Text.byte? "6".toList = some Protocol.tcp.number := by decide
  have hwords : Text.words repeatedRow = ["ipv4", "2", "tcp", "6", "300", "ESTABLISHED",
      "sport=4000", "src=10.0.0.1", "src=nowhere", "dst=1.1.1.1", "dport=443"].map
        String.toList := by
    decide +kernel
  have hparse : parse repeatedRow = .entry repeatedEntry := by decide +kernel
  obtain ⟨-, -, -, hmore⟩ := parse_of_number hnumber hwords
  exact ⟨hnumber, hwords, hparse, fun more => hmore _ hparse ' ' more (by decide)⟩

end Row

end FlowAudit.Conntrack
