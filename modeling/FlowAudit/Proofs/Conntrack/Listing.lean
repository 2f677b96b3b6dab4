import FlowAudit.Proofs.Conntrack.Row
import FlowAudit.Proofs.Net.Notation

/-!
# Tables put together from lines

A table is put together from lines of four kinds: rows of connections, rows of protocols that are
not followed, blank lines, and rows that cannot be read (`Line`). However the lines end, the table
holds the connections of the rows of the first kind, in their order, and the number of lines of the
last kind (`parse_tableText`).
-/

namespace FlowAudit.Conntrack

open Text (Spells LineEnd joinLines wordLines)

/-! ### Rows of connections -/

/-- A row of a connection: four words, the last of which is the number of the protocol; words
without `=`, such as a timeout and a state; the addresses and ports in any order; and any words
behind them. -/
structure ListedRow where
  text : List Char
  connection : Connection
  family : List Char
  familyNumber : List Char
  name : List Char
  /-- The words in front of the addresses and ports. -/
  bare : List (List Char)
  /-- A text form of the address of the source. -/
  source : List Char
  /-- A text form of the address of the destination. -/
  destination : List Char
  /-- The words for the addresses and ports, in their order. -/
  given : List (List Char)
  /-- The words behind the addresses and ports. -/
  further : List (List Char)
  single : '\n' ∉ text
  notMem_bare : ∀ w ∈ bare, '=' ∉ w
  parse_source : IpAddress.parse? source = some connection.sourceAddress
  parse_destination : IpAddress.parse? destination = some connection.destinationAddress
  given_perm : given.Perm [Key.sourceAddress.word source, Key.destinationAddress.word destination,
    Key.sourcePort.word (toString connection.sourcePort.toNat).toList,
    Key.destinationPort.word (toString connection.destinationPort.toNat).toList]
  spells : Spells text (family :: familyNumber :: name ::
    (toString connection.protocol.number.toNat).toList :: (bare ++ (given ++ further)))

namespace Key

theorem word_inj {key key' : Key} {value value' : List Char} :
    key.word value = key'.word value' ↔ key = key' ∧ value = value' := by
  constructor
  · intro h
    have hvalue := value?_word key' key value'
    rw [← h, value?_word, if_pos rfl] at hvalue
    split at hvalue
    · rename_i hkey
      exact ⟨hkey, Option.some.inj hvalue⟩
    · cases hvalue
  · rintro ⟨rfl, rfl⟩
    rfl

/-- What is the only value given in some words, and is given there, counts. -/
theorem first?_of_unique {key : Key} {value : List Char} {ws : List (List Char)}
    (hmem : key.word value ∈ ws) (hunique : ∀ w ∈ ws, ∀ u, key.value? w = some u → u = value) :
    key.first? ws = some value := by
  induction ws with
  | nil => simp at hmem
  | cons w ws ih =>
    rw [List.forall_mem_cons] at hunique
    rw [first?_cons]
    cases hw : key.value? w with
    | some u => rw [hunique.1 u hw, Option.some_or]
    | none =>
      rw [Option.none_or]
      refine ih ?_ hunique.2
      rcases List.mem_cons.mp hmem with rfl | hmem
      · simp [value?_word] at hw
      · exact hmem

theorem first?_of_notMem {ws : List (List Char)} (h : ∀ w ∈ ws, '=' ∉ w) (key : Key) :
    key.first? ws = none :=
  List.findSome?_eq_none_iff.mpr fun w hw => value?_of_notMem (h w hw) key

end Key

/-- The words that give values, up to the one for the source address, say nothing of a state. -/
theorem saysOver_append {bare given further : List (List Char)} (hbare : ∀ w ∈ bare, '=' ∉ w)
    (hgiven : ∀ w ∈ given, '=' ∈ w) (hsource : ∃ value, Key.sourceAddress.word value ∈ given) :
    saysOver (bare ++ (given ++ further)) = bare.any isOverState := by
  have hfirst : bare.takeWhile (fun w => (Key.sourceAddress.value? w).isNone) = bare :=
    List.takeWhile_eq_self_iff.mpr fun w hw => by simp [Key.value?_of_notMem (hbare w hw)]
  obtain ⟨value, hvalue⟩ := hsource
  rw [← List.append_assoc, saysOver_append_of_mem (List.mem_append_right bare hvalue), saysOver,
    List.takeWhile_append, hfirst, if_pos rfl, List.any_append, Bool.or_eq_left_iff_imp]
  intro hany
  obtain ⟨w, hw, hover⟩ := List.any_eq_true.mp hany
  rw [isOverState_of_mem (hgiven w ((List.takeWhile_sublist _).subset hw))] at hover
  cases hover

namespace ListedRow

variable (row : ListedRow)

/-- Whether no word in front of the source address says that the connection is over. -/
def live : Bool :=
  "TIME_WAIT".toList ∉ row.bare ∧ "CLOSE".toList ∉ row.bare

/-- What the row lists. -/
def entry : Entry :=
  ⟨row.connection, row.live⟩

/-- The words behind the number of the protocol. -/
def fieldWords : List (List Char) :=
  row.bare ++ (row.given ++ row.further)

variable {row}

theorem mem_given {w : List Char} (hw : w ∈ row.given) : ∃ key value, w = Key.word key value := by
  rw [row.given_perm.mem_iff] at hw
  simp only [List.mem_cons, List.not_mem_nil, or_false] at hw
  rcases hw with rfl | rfl | rfl | rfl <;> exact ⟨_, _, rfl⟩

/-- Of the words for the addresses and ports, one gives the value for a key. -/
theorem first?_fieldWords {key : Key} {value : List Char} (hmem : key.word value ∈ row.given)
    (hunique : ∀ u, key.word u ∈ row.given → u = value) :
    key.first? row.fieldWords = some value := by
  have hgiven : key.first? row.given = some value := by
    refine Key.first?_of_unique hmem fun w hw u hu => ?_
    rw [Key.value?_eq_some_iff] at hu
    exact hunique u (hu ▸ hw)
  rw [fieldWords, Key.first?_append, Key.first?_of_notMem row.notMem_bare, Option.none_or,
    Key.first?_append, hgiven, Option.some_or]

theorem saysOver_fieldWords (row : ListedRow) : saysOver row.fieldWords = !row.live := by
  have hgiven : ∀ w ∈ row.given, '=' ∈ w := by
    intro w hw
    obtain ⟨key, value, rfl⟩ := mem_given hw
    simp [Key.word]
  have hsource : ∃ value, Key.sourceAddress.word value ∈ row.given :=
    ⟨row.source, by simp [row.given_perm.mem_iff]⟩
  rw [fieldWords, saysOver_append row.notMem_bare hgiven hsource, Bool.eq_iff_iff]
  simp only [List.any_eq_true, isOverState, live, Bool.or_eq_true, decide_eq_true_eq,
    Bool.not_eq_true', decide_eq_false_iff_not, not_and_or, not_not]
  constructor
  · rintro ⟨w, hw, rfl | rfl⟩
    · exact .inl hw
    · exact .inr hw
  · rintro (hw | hw)
    · exact ⟨_, hw, .inl rfl⟩
    · exact ⟨_, hw, .inr rfl⟩

/-- The words of the row make up what it lists. -/
theorem settle?_fieldWords (row : ListedRow) :
    ({} : Fields).settle? row.connection.protocol row.fieldWords = some row.entry := by
  have hsource : Key.sourceAddress.first? row.fieldWords = some row.source :=
    first?_fieldWords (by simp [row.given_perm.mem_iff])
      (by simp [row.given_perm.mem_iff, Key.word_inj])
  have hdestination : Key.destinationAddress.first? row.fieldWords = some row.destination :=
    first?_fieldWords (by simp [row.given_perm.mem_iff])
      (by simp [row.given_perm.mem_iff, Key.word_inj])
  have hsourcePort : Key.sourcePort.first? row.fieldWords =
      some (toString row.connection.sourcePort.toNat).toList :=
    first?_fieldWords (by simp [row.given_perm.mem_iff])
      (by simp [row.given_perm.mem_iff, Key.word_inj])
  have hdestinationPort : Key.destinationPort.first? row.fieldWords =
      some (toString row.connection.destinationPort.toNat).toList :=
    first?_fieldWords (by simp [row.given_perm.mem_iff])
      (by simp [row.given_perm.mem_iff, Key.word_inj])
  simp only [Fields.settle?, hsource, hdestination, hsourcePort, hdestinationPort,
    row.parse_source, row.parse_destination, Text.word16?_toString, saysOver_fieldWords,
    Option.none_or, Option.bind_some, Option.bind_eq_bind, Bool.not_not]
  rfl

end ListedRow

/-! ### The row of a connection -/

theorem Key.isWord_word (key : Key) {value : List Char}
    (hvalue : ∀ c ∈ value, Text.isBlank c = false) : Text.IsWord (key.word value) := by
  refine ⟨by simp [word], fun c hc => ?_⟩
  rw [word, List.mem_append, List.mem_cons] at hc
  rcases hc with hc | rfl | hc
  · have hname : key.name.Forall (Text.isBlank · = false) := by cases key <;> decide
    exact List.forall_iff_forall_mem.mp hname c hc
  · decide
  · exact hvalue c hc

theorem isBlank_of_mem_toString {n : Nat} : ∀ c ∈ (toString n).toList, Text.isBlank c = false :=
  fun _ hc => Text.of_isDigit (p := fun c => Text.isBlank c = false) (by decide)
    (Ipv4.isDigit_of_mem_toString hc)

/-- The words for a connection, which show its addresses in their usual form. -/
def connectionWords (c : Connection) : List (List Char) :=
  [Key.sourceAddress.word c.sourceAddress.render.toList,
    Key.destinationAddress.word c.destinationAddress.render.toList,
    Key.sourcePort.word (toString c.sourcePort.toNat).toList,
    Key.destinationPort.word (toString c.destinationPort.toNat).toList]

/-- All words of a row that lists a connection. -/
def rowWords (c : Connection) : List (List Char) :=
  "ipv4".toList :: "2".toList :: c.protocol.name.toList ::
    (toString c.protocol.number.toNat).toList :: connectionWords c

theorem isWord_of_mem_rowWords (c : Connection) : ∀ w ∈ rowWords c, Text.IsWord w := by
  have haddress (x : IpAddress) : ∀ c ∈ x.render.toList, Text.isBlank c = false := fun _ hc =>
    IpAddress.of_mem_render (p := fun c => Text.isBlank c = false) (by decide) hc
  have hplain {w : List Char} (hne : w ≠ []) (h : w.Forall (Text.isBlank · = false)) :
      Text.IsWord w := ⟨hne, List.forall_iff_forall_mem.mp h⟩
  simp only [rowWords, connectionWords, List.forall_mem_cons, List.not_mem_nil, false_imp_iff,
    implies_true, and_true]
  refine ⟨hplain (by decide) (by decide), hplain (by decide) (by decide), ?_, ?_,
    Key.isWord_word _ (haddress _), Key.isWord_word _ (haddress _),
    Key.isWord_word _ isBlank_of_mem_toString, Key.isWord_word _ isBlank_of_mem_toString⟩
  · cases c.protocol <;> exact hplain (by decide) (by decide)
  · cases c.protocol <;> exact hplain (by decide) (by decide)

/-- Every connection is listed by a row. -/
def ListedRow.ofConnection (c : Connection) : ListedRow where
  text := [' '].intercalate (rowWords c)
  connection := c
  family := "ipv4".toList
  familyNumber := "2".toList
  name := c.protocol.name.toList
  bare := []
  source := c.sourceAddress.render.toList
  destination := c.destinationAddress.render.toList
  given := connectionWords c
  further := []
  single := fun hc => by
    rcases Text.eq_or_exists_of_mem_intercalate hc with hc | ⟨w, hw, hc⟩
    · cases hc
    · cases (isWord_of_mem_rowWords c w hw).2 '\n' hc
  notMem_bare := List.forall_mem_nil _
  parse_source := IpAddress.parse?_render c.sourceAddress
  parse_destination := IpAddress.parse?_render c.destinationAddress
  given_perm := .refl _
  spells := by
    rw [List.nil_append, List.append_nil]
    exact Text.spells_intercalate (isWord_of_mem_rowWords c)

/-! ### Lines -/

/-- A line of a table. -/
inductive Line where
  /-- A row of a connection. -/
  | listed (row : ListedRow)
  /-- A row of a protocol that is not followed. -/
  | other (text : List Char) (family familyNumber name number : List Char) (n : UInt8)
    (further : List (List Char)) (single : '\n' ∉ text) (number_eq : Text.byte? number = some n)
    (not_followed : n ≠ 6 ∧ n ≠ 17)
    (spells : Spells text (family :: familyNumber :: name :: number :: further))
  | blank (text : List Char) (single : '\n' ∉ text) (all_blank : ∀ c ∈ text, Text.isBlank c = true)
  /-- A row that cannot be read. -/
  | malformed (text : List Char) (words : List (List Char)) (single : '\n' ∉ text)
    (ne_nil : words ≠ []) (unreadable : Malformed words) (spells : Spells text words)

namespace Line

def text : Line → List Char
  | listed row => row.text
  | other text .. => text
  | blank text .. => text
  | malformed text .. => text

/-- What the line lists, if it lists a connection. -/
def entry? : Line → Option Entry
  | listed row => some row.entry
  | _ => none

/-- Whether the line is a row that cannot be read. -/
def isMalformed : Line → Bool
  | malformed .. => true
  | _ => false

theorem notMem_text (line : Line) : '\n' ∉ line.text := by
  cases line with
  | listed row => exact row.single
  | other _ _ _ _ _ _ _ single | blank _ single | malformed _ _ single => exact single

end Line

/-! ### Tables -/

/-- The rows of a table, from the words of its lines. -/
theorem rows_eq (text : List Char) : rows text = (wordLines text).map Row.ofWords := by
  have hblank : (fun line : List Char => !(line.all Text.isBlank)) =
      (fun ws : List (List Char) => !ws.isEmpty) ∘ Text.words := by
    funext line
    rw [Function.comp_apply, Text.isEmpty_words]
  rw [rows, wordLines, List.filter_map, List.map_map, hblank]
  rfl

theorem rows_of_spells {text : List Char} {ws : List (List Char)} (single : '\n' ∉ text)
    (spells : Spells text ws) (hws : ws ≠ []) : rows text = [Row.ofWords ws] := by
  rw [rows_eq, Text.wordLines_of_notMem single, spells.words_eq, if_neg (by simpa using hws),
    List.map_singleton]

/-- The row that is read from a line. -/
theorem rows_text (line : Line) : rows line.text = match line with
    | .listed row => [.entry row.entry]
    | .other .. => [.untracked]
    | .blank .. => []
    | .malformed .. => [.malformed] := by
  cases line with
  | listed row =>
    rw [Line.text, rows_of_spells row.single row.spells (List.cons_ne_nil _ _),
      Row.ofWords_of_number (Text.byte?_toString _), ← ListedRow.fieldWords,
      row.settle?_fieldWords]
  | other text family familyNumber name number n further single number_eq not_followed spells =>
    have hn : ∀ protocol : Protocol, n ≠ protocol.number := by
      rintro (_ | _)
      · exact not_followed.1
      · exact not_followed.2
    rw [Line.text, rows_of_spells single spells (List.cons_ne_nil _ _),
      Row.ofWords_of_other number_eq hn]
  | blank text single all_blank =>
    rw [Line.text, rows_eq, Text.wordLines_of_notMem single, (Spells.blank all_blank).words_eq]
    rfl
  | malformed text words single ne_nil unreadable spells =>
    rw [Line.text, rows_of_spells single spells ne_nil,
      Row.ofWords_eq_malformed_iff.mpr unreadable]

/-- The row of a connection is read as this connection. -/
theorem rows_ofConnection (c : Connection) :
    rows (ListedRow.ofConnection c).text = [.entry ⟨c, true⟩] :=
  rows_text (.listed (.ofConnection c))

/-- The lines of a table, each with its end, and the last one without an end. -/
def tableText (lines : List (Line × LineEnd)) (last : Line) : String :=
  .ofList (joinLines (lines.map fun line => (line.1.text, line.2)) last.text)

theorem rows_tableText (lines : List (Line × LineEnd)) (last : Line) :
    rows (tableText lines last).toList =
      (lines.map Prod.fst ++ [last]).flatMap fun line => rows line.text := by
  have hsingle : ∀ line ∈ lines.map (fun line => (line.1.text, line.2)), '\n' ∉ line.1 := by
    intro line hline
    obtain ⟨line', -, rfl⟩ := List.mem_map.mp hline
    exact line'.1.notMem_text
  rw [tableText, String.toList_ofList, rows_eq, Text.wordLines_joinLines hsingle]
  simp [rows_eq, List.flatMap_map, List.map_flatMap]

/-- What is read from lines is what they list, and how many of them cannot be read. -/
theorem flatMap_rows_text (lines : List Line) :
    (lines.flatMap fun line => rows line.text).filterMap Row.entry? =
        lines.filterMap Line.entry? ∧
      (lines.flatMap fun line => rows line.text).count .malformed =
        lines.countP Line.isMalformed := by
  induction lines with
  | nil => exact ⟨rfl, rfl⟩
  | cons line lines ih =>
    obtain ⟨hentries, hmalformed⟩ := ih
    rw [List.flatMap_cons, List.filterMap_append, List.count_append, hentries, hmalformed,
      rows_text, List.countP_cons]
    cases line <;> exact ⟨rfl, Nat.add_comm _ _⟩

/-- A table holds the connections of its rows, in their order, and the number of rows that cannot be
read. Whatever text stands in front of a line feed or behind it, the one has no influence on how the
other is read. -/
theorem parse_tableText (lines : List (Line × LineEnd)) (last : Line) :
    Table.parse (tableText lines last) =
        ⟨(lines.map Prod.fst ++ [last]).filterMap Line.entry?,
          (lines.map Prod.fst ++ [last]).countP Line.isMalformed⟩ ∧
      ∀ front back : String, Table.parse (front ++ "\n" ++ back) =
        ⟨(Table.parse front).entries ++ (Table.parse back).entries,
          (Table.parse front).malformed + (Table.parse back).malformed⟩ := by
  constructor
  · obtain ⟨hentries, hmalformed⟩ := flatMap_rows_text (lines.map Prod.fst ++ [last])
    rw [Table.parse, rows_tableText, hentries, hmalformed]
  · intro front back
    have hrows : rows (front ++ "\n" ++ back).toList = rows front.toList ++ rows back.toList := by
      have hsplit : (front ++ "\n" ++ back).toList = front.toList ++ '\n' :: back.toList := by
        simp
      rw [hsplit, rows_eq, rows_eq, rows_eq, Text.wordLines_append, List.map_append]
    simp only [Table.parse, hrows, List.filterMap_append, List.count_append]

end FlowAudit.Conntrack
