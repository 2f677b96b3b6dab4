import FlowAudit.Conntrack.Table
import FlowAudit.Proofs.Text.Words

/-!
# What a row of the table says

The words of a row are read one by one, and no further than needed. What comes out does not depend
on that: of each key the first value counts, wherever it stands, and the connection is over if a
word in front of the first source address says so (`Fields.scan?_eq_settle?`). A row cannot be read
if it has too few words, if its protocol has no number, or if a value that counts is missing or
cannot be read (`Row.ofWords_eq_malformed_iff`).
-/

namespace FlowAudit

namespace Conntrack

/-! ### Keys and their values -/

namespace Key

variable {key : Key} {w value : List Char} {ws : List (List Char)}

/-- The name of the key, as it stands in front of the `=`. -/
def name : Key → List Char
  | sourceAddress => "src".toList
  | destinationAddress => "dst".toList
  | sourcePort => "sport".toList
  | destinationPort => "dport".toList

/-- The word that gives a value for the key. -/
def word (key : Key) (value : List Char) : List Char :=
  key.name ++ '=' :: value

/-- The value that a word gives for the key, if it gives one. -/
def value? (key : Key) (w : List Char) : Option (List Char) :=
  Text.after? (key.word []) w

/-- The first value that is given for the key. -/
def first? (key : Key) (ws : List (List Char)) : Option (List Char) :=
  ws.findSome? key.value?

theorem value?_eq_some_iff : key.value? w = some value ↔ w = key.word value := by
  rw [value?, Text.after?_eq_some_iff, word, word, List.append_assoc]
  rfl

theorem notMem_name (key : Key) : '=' ∉ key.name := by
  cases key <;> decide

theorem ofWord?_eq_some_iff : ofWord? w = some key ↔ w = key.name := by
  constructor
  · intro h
    unfold ofWord? at h
    split at h
    all_goals
      cases h
      try rfl
  · rintro rfl
    cases key <;> rfl

/-- A word without `=` gives no value. -/
theorem value?_of_notMem (h : '=' ∉ w) (key : Key) : key.value? w = none := by
  rw [Option.eq_none_iff_forall_ne_some]
  rintro value hvalue
  rw [value?_eq_some_iff] at hvalue
  exact h (by rw [hvalue]; simp [word])

/-- A word gives a value for one key only. -/
theorem value?_word (key key' : Key) (value : List Char) :
    key'.value? (key.word value) = if key' = key then some value else none := by
  split
  · rename_i hkey
    rw [value?_eq_some_iff, hkey]
  · rename_i hkey
    rw [Option.eq_none_iff_forall_ne_some]
    intro value' hvalue
    rw [value?_eq_some_iff] at hvalue
    have hsplit := Text.splitOnce?_append key.notMem_name value
    have hsplit' := Text.splitOnce?_append key'.notMem_name value'
    rw [← word, hvalue, word, hsplit'] at hsplit
    have hname : key'.name = key.name := congrArg Prod.fst (Option.some.inj hsplit)
    have hsome : some key' = some key := by
      rw [← ofWord?_eq_some_iff.mpr (rfl : key'.name = _), hname, ofWord?_eq_some_iff]
    exact hkey (Option.some.inj hsome)

theorem first?_cons (key : Key) (w : List Char) (ws : List (List Char)) :
    key.first? (w :: ws) = (key.value? w).or (key.first? ws) := by
  rw [first?, List.findSome?_cons]
  cases key.value? w <;> rfl

theorem first?_append (key : Key) (front back : List (List Char)) :
    key.first? (front ++ back) = (key.first? front).or (key.first? back) :=
  List.findSome?_append

end Key

/-- Whether a word in front of the first source address says that the connection is over. -/
def saysOver (ws : List (List Char)) : Bool :=
  (ws.takeWhile fun w => (Key.sourceAddress.value? w).isNone).any isOverState

/-- Behind the first source address no word says that the connection is over. -/
theorem saysOver_append_of_mem {value : List Char} {front : List (List Char)}
    (h : Key.sourceAddress.word value ∈ front) (back : List (List Char)) :
    saysOver (front ++ back) = saysOver front := by
  have hstop : (front.takeWhile fun w => (Key.sourceAddress.value? w).isNone).length ≠
      front.length := by
    intro hlength
    have hall := List.takeWhile_eq_self_iff.mp
      ((List.takeWhile_prefix _).eq_of_length hlength) _ h
    simp [Key.value?_word] at hall
  rw [saysOver, List.takeWhile_append, if_neg hstop, saysOver]

theorem isOverState_of_mem {w : List Char} (h : '=' ∈ w) : isOverState w = false := by
  unfold isOverState
  rw [Bool.or_eq_false_iff, decide_eq_false_iff_not, decide_eq_false_iff_not]
  refine ⟨?_, ?_⟩
  · rintro rfl
    revert h
    decide
  · rintro rfl
    revert h
    decide

/-! ### The words of a row -/

namespace Fields

variable {f f' : Fields} {protocol : Protocol} {w : List Char} {ws : List (List Char)}

/-- The entry that the values in `f` and the words behind them make up: for each key the value in
`f` counts, or else the first one in the words. -/
def settle? (f : Fields) (protocol : Protocol) (ws : List (List Char)) : Option Entry := do
  let sourceAddress ←
    f.sourceAddress.or ((Key.sourceAddress.first? ws).bind IpAddress.parse?)
  let sourcePort ← f.sourcePort.or ((Key.sourcePort.first? ws).bind Text.word16?)
  let destinationAddress ←
    f.destinationAddress.or ((Key.destinationAddress.first? ws).bind IpAddress.parse?)
  let destinationPort ← f.destinationPort.or ((Key.destinationPort.first? ws).bind Text.word16?)
  return ⟨⟨protocol, sourceAddress, sourcePort, destinationAddress, destinationPort⟩,
    f.live && (f.sourceAddress.isSome || !saysOver ws)⟩

theorem settle?_nil (f : Fields) (protocol : Protocol) :
    f.settle? protocol [] = f.entry? protocol := by
  simp [settle?, entry?, Key.first?, saysOver]

/-- Once the four values are there, the words behind them make no difference. -/
theorem settle?_of_complete {e : Entry} (h : f.entry? protocol = some e) (ws : List (List Char)) :
    f.settle? protocol ws = some e := by
  obtain ⟨sourceAddress, destinationAddress, sourcePort, destinationPort, live⟩ := f
  unfold entry? at h
  cases sourceAddress <;> cases destinationAddress <;> cases sourcePort <;>
    cases destinationPort <;> simp at h
  subst h
  simp [settle?]

/-- A value that is given is taken in, if none is there yet. -/
theorem settle?_word (f : Fields) (protocol : Protocol) (key : Key) (value : List Char)
    (ws : List (List Char)) :
    f.settle? protocol (key.word value :: ws) =
      (f.put? key value).bind fun f => f.settle? protocol ws := by
  obtain ⟨sourceAddress, destinationAddress, sourcePort, destinationPort, live⟩ := f
  have hover : saysOver (key.word value :: ws) =
      (saysOver ws && !decide (Key.sourceAddress = key)) := by
    have hstate : isOverState (key.word value) = false := isOverState_of_mem (by simp [Key.word])
    rw [saysOver, List.takeWhile_cons, Key.value?_word]
    split <;> simp_all [saysOver]
  simp only [settle?, Key.first?_cons, Key.value?_word, hover]
  cases key with
  | sourceAddress =>
    cases sourceAddress with
    | some x => simp [put?]
    | none => cases hx : IpAddress.parse? value <;> simp [put?, hx]
  | destinationAddress =>
    cases destinationAddress with
    | some x => simp [put?]
    | none => cases hx : IpAddress.parse? value <;> simp [put?, hx]
  | sourcePort =>
    cases sourcePort with
    | some p => simp [put?]
    | none => cases hp : Text.word16? value <;> simp [put?, hp]
  | destinationPort =>
    cases destinationPort with
    | some p => simp [put?]
    | none => cases hp : Text.word16? value <;> simp [put?, hp]

/-- A word that gives no value makes a difference only if it says that the connection is over. -/
theorem settle?_of_value?_eq_none (f : Fields) (protocol : Protocol)
    (hvalue : ∀ key : Key, key.value? w = none) (ws : List (List Char)) :
    f.settle? protocol (w :: ws) =
      ({ f with live := f.live && (f.sourceAddress.isSome || !isOverState w) } : Fields).settle?
        protocol ws := by
  have hover : saysOver (w :: ws) = (isOverState w || saysOver ws) := by
    simp [saysOver, hvalue]
  obtain ⟨sourceAddress, destinationAddress, sourcePort, destinationPort, live⟩ := f
  simp only [settle?, Key.first?_cons, hvalue, hover, Option.none_or]
  cases sourceAddress <;> cases isOverState w <;> simp

/-- The words of a row may be read one by one. -/
theorem settle?_cons (f : Fields) (protocol : Protocol) (w : List Char) (ws : List (List Char)) :
    f.settle? protocol (w :: ws) = (f.read? w).bind fun f => f.settle? protocol ws := by
  unfold read?
  cases hsplit : Text.splitOnce? '=' w with
  | none =>
    have hvalue := Key.value?_of_notMem (Text.splitOnce?_eq_none_iff.mp hsplit)
    rw [settle?_of_value?_eq_none f protocol hvalue, Option.bind_some]
    obtain ⟨sourceAddress, destinationAddress, sourcePort, destinationPort, live⟩ := f
    cases sourceAddress <;> cases isOverState w <;> simp
  | some parts =>
    obtain ⟨front, value⟩ := parts
    obtain ⟨hw, -⟩ := Text.eq_of_splitOnce? hsplit
    dsimp only
    cases hkey : Key.ofWord? front with
    | some key =>
      rw [Key.ofWord?_eq_some_iff] at hkey
      rw [hw, hkey]
      exact settle?_word f protocol key value ws
    | none =>
      have hvalue : ∀ key : Key, key.value? w = none := by
        intro key
        rw [Option.eq_none_iff_forall_ne_some]
        intro value' hvalue
        rw [Key.value?_eq_some_iff] at hvalue
        rw [hvalue, Key.word, Text.splitOnce?_append key.notMem_name] at hsplit
        obtain ⟨rfl, -⟩ := Prod.mk.inj (Option.some.inj hsplit)
        rw [Key.ofWord?_eq_some_iff.mpr rfl] at hkey
        cases hkey
      have hstate : isOverState w = false := isOverState_of_mem (by simp [hw])
      rw [settle?_of_value?_eq_none f protocol hvalue, hstate]
      simp

/-- What comes out of a row does not depend on how far it is read. -/
theorem scan?_eq_settle? (hf : f.entry? protocol = none) (ws : List (List Char)) :
    scan? protocol f ws = f.settle? protocol ws := by
  induction ws generalizing f with
  | nil => rw [settle?_nil, hf, scan?]
  | cons w ws ih =>
    rw [scan?, settle?_cons]
    cases f.read? w with
    | none => rfl
    | some g =>
      rw [Option.bind_some]
      cases hentry : g.entry? protocol with
      | some e => simp [hentry, settle?_of_complete hentry]
      | none => simp [hentry, ih hentry]

end Fields

/-! ### Rows -/

/-- Whether a value can be read for the key. -/
def Key.Reads : Key → List Char → Prop
  | .sourceAddress, value | .destinationAddress, value => (IpAddress.parse? value).isSome
  | .sourcePort, value | .destinationPort, value => (Text.word16? value).isSome

/-- The words of a row that cannot be read. -/
inductive Malformed : List (List Char) → Prop
  /-- Too few words. -/
  | short {ws : List (List Char)} (h : ws.length < 4) : Malformed ws
  /-- The protocol has no number. -/
  | number {family familyNumber name number : List Char} {ws : List (List Char)}
    (h : Text.byte? number = none) : Malformed (family :: familyNumber :: name :: number :: ws)
  /-- The first value for one of the keys is missing or cannot be read. -/
  | value {family familyNumber name number : List Char} {ws : List (List Char)}
    {protocol : Protocol} (hprotocol : Text.byte? number = some protocol.number) (key : Key)
    (h : ∀ value, key.first? ws = some value → ¬ key.Reads value) :
    Malformed (family :: familyNumber :: name :: number :: ws)

theorem Key.exists_iff {p : Key → Prop} : (∃ key, p key) ↔
    p .sourceAddress ∨ p .sourcePort ∨ p .destinationAddress ∨ p .destinationPort := by
  constructor
  · rintro ⟨key, h⟩
    cases key <;> simp [h]
  · rintro (h | h | h | h) <;> exact ⟨_, h⟩

theorem Key.forall_not_reads_iff {α : Type} {key : Key} (read : List Char → Option α)
    (hread : ∀ value, key.Reads value ↔ (read value).isSome) (ws : List (List Char)) :
    (∀ value, key.first? ws = some value → ¬ key.Reads value) ↔
      (key.first? ws).bind read = none := by
  cases key.first? ws with
  | none => simp
  | some value => simp [hread]

/-- A row of a protocol that is followed makes up no entry if a value is missing. -/
theorem Fields.settle?_eq_none_iff {protocol : Protocol} {ws : List (List Char)} :
    ({} : Fields).settle? protocol ws = none ↔
      ∃ key : Key, ∀ value, key.first? ws = some value → ¬ key.Reads value := by
  rw [Key.exists_iff, Key.forall_not_reads_iff IpAddress.parse? fun _ => Iff.rfl,
    Key.forall_not_reads_iff Text.word16? fun _ => Iff.rfl,
    Key.forall_not_reads_iff IpAddress.parse? fun _ => Iff.rfl,
    Key.forall_not_reads_iff Text.word16? fun _ => Iff.rfl]
  simp only [settle?, Option.none_or]
  cases (Key.sourceAddress.first? ws).bind IpAddress.parse? with
  | none => simp
  | some x =>
    cases (Key.sourcePort.first? ws).bind Text.word16? with
    | none => simp
    | some p =>
      cases (Key.destinationAddress.first? ws).bind IpAddress.parse? with
      | none => simp
      | some y => cases (Key.destinationPort.first? ws).bind Text.word16? <;> simp

namespace Row

variable {family familyNumber name number : List Char} {ws : List (List Char)}

theorem ofWords_of_number {protocol : Protocol} (h : Text.byte? number = some protocol.number) :
    ofWords (family :: familyNumber :: name :: number :: ws) =
      match ({} : Fields).settle? protocol ws with
      | some e => .entry e
      | none => .malformed := by
  have hstart : Fields.entry? {} protocol = none := rfl
  rw [← Fields.scan?_eq_settle? hstart]
  cases hscan : Fields.scan? protocol {} ws <;>
    simp only [ofWords, h, Protocol.ofNumber?_number, hscan]

theorem ofWords_of_other {n : UInt8} (h : Text.byte? number = some n)
    (hn : ∀ protocol : Protocol, n ≠ protocol.number) :
    ofWords (family :: familyNumber :: name :: number :: ws) = .untracked := by
  have hnone : Protocol.ofNumber? n.toNat = none := by
    have htcp : n.toNat ≠ 6 := fun heq => hn .tcp (UInt8.toNat_inj.mp heq)
    have hudp : n.toNat ≠ 17 := fun heq => hn .udp (UInt8.toNat_inj.mp heq)
    simp [Protocol.ofNumber?, htcp, hudp]
  simp only [ofWords, h, hnone]

/-- Which rows cannot be read. -/
theorem ofWords_eq_malformed_iff {ws : List (List Char)} :
    ofWords ws = .malformed ↔ Malformed ws := by
  constructor
  · intro h
    match ws with
    | [] | [_] | [_, _] | [_, _, _] => exact .short (by simp)
    | family :: familyNumber :: name :: number :: ws =>
      cases hnumber : Text.byte? number with
      | none => exact .number hnumber
      | some n =>
        by_cases hn : ∃ protocol : Protocol, n = protocol.number
        · obtain ⟨protocol, rfl⟩ := hn
          rw [ofWords_of_number hnumber] at h
          cases hsettle : ({} : Fields).settle? protocol ws with
          | some e => simp [hsettle] at h
          | none =>
            obtain ⟨key, hkey⟩ := Fields.settle?_eq_none_iff.mp hsettle
            exact .value hnumber key hkey
        · rw [not_exists] at hn
          rw [ofWords_of_other hnumber hn] at h
          cases h
  · intro h
    cases h with
    | short h =>
      match ws with
      | [] | [_] | [_, _] | [_, _, _] => rfl
      | _ :: _ :: _ :: _ :: _ =>
        simp only [List.length_cons] at h
        omega
    | number h => simp only [ofWords, h]
    | value hprotocol key h =>
      rw [ofWords_of_number hprotocol, Fields.settle?_eq_none_iff.mpr ⟨key, h⟩]

end Row

end Conntrack

end FlowAudit
