import FlowAudit.Json.Reader
import FlowAudit.Proofs.Text.Hexadecimal
import FlowAudit.Proofs.Text.Words

/-!
# JSON values read back

The text of a value is read as that value (`Json.parse?_render`): strings keep every character,
numbers the form in which they are written, objects the order of their members and repeated names.
Only a string without a text is read as another one, the one by which it is shown.

A value is read back wherever it stands, if what follows it does not go on with a number
(`readValue?_render`). A budget of as many steps as the text has characters is enough: an item or a
member takes one step from those behind it, and a separator stands between them.
-/

namespace FlowAudit.Json

/-! ### Strings -/

theorem readUnit?_paddedDigits {n : Nat} (hn : n < 0x10000) (rest : List Char) :
    readUnit? (Text.paddedDigits 16 4 n ++ rest) = some (n, rest) := by
  have hlength : (Text.paddedDigits 16 4 n).length = 4 := Text.length_paddedDigits (k := 3) hn
  have hread := Text.ofDigits?_paddedDigits 4 n
  obtain ⟨a, b, c, d, hdigits⟩ : ∃ a b c d, Text.paddedDigits 16 4 n = [a, b, c, d] := by
    generalize Text.paddedDigits 16 4 n = digits at hlength
    match digits, hlength with
    | [a, b, c, d], _ => exact ⟨a, b, c, d, rfl⟩
  rw [hdigits] at hread ⊢
  simp [readUnit?, hread]

/-- A step over the text of a character reads that character. -/
theorem readString?_escape (budget : Nat) (done : List Char) (c : Char) (rest : List Char) :
    readString? (budget + 1) (some done) (escape c ++ rest) =
      readString? budget (some (c :: done)) rest := by
  unfold escape
  split
  case h_8 =>
    split
    · rename_i hlow
      have hunit := readUnit?_paddedDigits (n := c.toNat) (by omega) rest
      have hescape : readUnicodeEscape? (Text.paddedDigits 16 4 c.toNat ++ rest) =
          some (some c, rest) := by
        have hfirst : isHighSurrogate c.toNat = false := by
          rw [isHighSurrogate, Bool.and_eq_false_iff, decide_eq_false_iff_not]
          omega
        have hsecond : isLowSurrogate c.toNat = false := by
          rw [isLowSurrogate, Bool.and_eq_false_iff, decide_eq_false_iff_not]
          omega
        simp [readUnicodeEscape?, hunit, hfirst, hsecond]
      simp [readString?, readEscape?, hescape]
    · rename_i hhigh
      simp [readString?, hhigh]
  all_goals rfl

theorem escape_ne_nil (c : Char) : escape c ≠ [] := by
  unfold escape
  split
  case h_8 => split <;> simp
  all_goals exact List.cons_ne_nil _ _

theorem length_le_flatMap_escape (s : List Char) : s.length ≤ (s.flatMap escape).length := by
  induction s with
  | nil => exact Nat.le_refl 0
  | cons c s ih =>
    have hone : 0 < (escape c).length := List.length_pos_iff.mpr (escape_ne_nil c)
    rw [List.flatMap_cons, List.length_append, List.length_cons]
    omega

theorem readString?_flatMap {s : List Char} {budget : Nat} (hbudget : s.length ≤ budget)
    (done rest : List Char) :
    readString? budget (some done) (s.flatMap escape ++ '"' :: rest) =
      some (some (String.ofList (done.reverse ++ s)), rest) := by
  induction s generalizing budget done with
  | nil =>
    rw [List.append_nil]
    cases budget <;> rfl
  | cons c s ih =>
    cases budget with
    | zero => cases hbudget
    | succ budget =>
      rw [List.flatMap_cons, List.append_assoc, readString?_escape,
        ih (Nat.le_of_succ_le_succ hbudget), List.reverse_cons, List.append_assoc]
      rfl

/-- The characters of a quoted string behind its opening quote. -/
def quoted (s : String) : List Char :=
  s.toList.flatMap escape ++ ['"']

theorem toList_quote (s : String) : (quote s).toList = '"' :: quoted s := by
  rw [quote, String.toList_ofList, quoted]

/-- A string is read back, whatever its characters are. -/
theorem readString?_quoted (s : String) (rest : List Char) :
    readString? (quoted s ++ rest).length (some []) (quoted s ++ rest) = some (some s, rest) := by
  have hsplit : quoted s ++ rest = s.toList.flatMap escape ++ '"' :: rest := by
    rw [quoted, List.append_assoc]
    rfl
  have hbudget : s.toList.length ≤ (s.toList.flatMap escape ++ '"' :: rest).length := by
    have hle := length_le_flatMap_escape s.toList
    rw [List.length_append]
    omega
  rw [hsplit, readString?_flatMap hbudget, List.reverse_nil, List.nil_append, String.ofList_toList]

/-! ### Numbers -/

/-- A text goes on with nothing that would belong to a number in front of it. -/
def EndsNumber (rest : List Char) : Prop :=
  ∀ c ∈ rest.head?, c.isDigit = false ∧ c ≠ '.' ∧ c ≠ 'e' ∧ c ≠ 'E'

theorem readDigits_append (n : Nat) {rest : List Char}
    (hrest : ∀ c ∈ rest.head?, c.isDigit = false) :
    readDigits (Nat.toDigits 10 n ++ rest) = (Nat.toDigits 10 n, rest) :=
  Text.span_append (fun _ hc => Nat.isDigit_of_mem_toDigits (by omega) (by omega) hc) hrest

theorem readFraction?_of_head? {s : List Char} (hs : ∀ c ∈ s.head?, c ≠ '.') :
    readFraction? s = some ([], s) := by
  unfold readFraction?
  split
  · exact absurd rfl (hs '.' rfl)
  · rfl

theorem readExponent?_of_head? {s : List Char} (hs : ∀ c ∈ s.head?, c ≠ 'e' ∧ c ≠ 'E') :
    readExponent? s = some (none, s) := by
  cases s with
  | nil => rfl
  | cons c s =>
    obtain ⟨hsmall, hcapital⟩ := hs c rfl
    simp [readExponent?, hsmall, hcapital]

/-- The digits of a number, the first of which is no sign. -/
theorem exists_toDigits_eq_cons (n : Nat) :
    ∃ d ds, Nat.toDigits 10 n = d :: ds ∧ d.isDigit = true ∧ d ≠ '-' ∧ d ≠ '+' := by
  obtain ⟨d, ds, hdigits⟩ := List.exists_cons_of_ne_nil (Nat.toDigits_ne_nil (b := 10) (n := n))
  have hd : d.isDigit = true :=
    Nat.isDigit_of_mem_toDigits (b := 10) (n := n) (by omega) (by omega) (by simp [hdigits])
  have hsign : d ≠ '-' ∧ d ≠ '+' :=
    Text.of_isDigit (p := fun d => d ≠ '-' ∧ d ≠ '+') (by decide) hd
  exact ⟨d, ds, hdigits, hd, hsign⟩

theorem readExponent?_append (e : Int) {rest : List Char}
    (hrest : ∀ c ∈ rest.head?, c.isDigit = false) :
    readExponent? ('e' :: ((toString e).toList ++ rest)) = some (some e, rest) := by
  rw [Int.toString_eq_repr]
  cases e with
  | ofNat n =>
    have hread := readDigits_append n hrest
    have hvalue := Text.ofDigits?_toDigits n
    obtain ⟨d, ds, hdigits, -, hminus, hplus⟩ := exists_toDigits_eq_cons n
    rw [Int.repr, Nat.toList_repr]
    rw [hdigits] at hread hvalue ⊢
    rw [List.cons_append] at hread ⊢
    simp [readExponent?, hminus, hplus, hread, hvalue]
  | negSucc n =>
    have hread := readDigits_append (n + 1) hrest
    have hvalue := Text.ofDigits?_toDigits (n + 1)
    have hsign : (Int.repr (Int.negSucc n)).toList = '-' :: Nat.toDigits 10 (n + 1) := by
      rw [Int.repr, String.toList_append, Nat.toList_repr]
      rfl
    have hopen (s : List Char) : readExponent? ('e' :: '-' :: s) =
        (Text.ofDigits? 10 (readDigits s).1).map fun n =>
          (some (-(n : Int)), (readDigits s).2) := rfl
    rw [hsign, List.cons_append, hopen, hread, hvalue]
    rfl

/-- Reads a number behind its sign. -/
def readMagnitude? (negative : Bool) (s : List Char) : Option (Number × List Char) := do
  let (ds, s) := readDigits s
  if ds.head? = some '0' && ds.length > 1 then none
  let (fraction, s) ← readFraction? s
  let (exponent, s) ← readExponent? s
  let mantissa ← Text.ofDigits? 10 ds
  if fraction.isEmpty && exponent.isNone then
    return (.whole negative mantissa, s)
  else
    let scaled ← Text.ofDigits? 10 (ds ++ fraction)
    return (.decimal negative scaled (exponent.getD 0 - fraction.length), s)

theorem readNumber?_minus (s : List Char) : readNumber? ('-' :: s) = readMagnitude? true s := rfl

theorem readNumber?_of_head? {s : List Char} (hs : ∀ c ∈ s.head?, c ≠ '-') :
    readNumber? s = readMagnitude? false s := by
  cases s with
  | nil => rfl
  | cons c s =>
    have hc : c ≠ '-' := hs c rfl
    simp [readNumber?, readMagnitude?, hc]

/-- A number without fraction is whole if it has no exponent either. -/
theorem readMagnitude?_append (negative : Bool) (n : Nat) {s : List Char}
    (hs : ∀ c ∈ s.head?, c.isDigit = false ∧ c ≠ '.') :
    readMagnitude? negative (Nat.toDigits 10 n ++ s) = (readExponent? s).map fun p =>
      (p.1.elim (.whole negative n) (.decimal negative n), p.2) := by
  have hdigits := readDigits_append n fun c hc => (hs c hc).1
  have hfraction := readFraction?_of_head? fun c hc => (hs c hc).2
  have hvalue := Text.ofDigits?_toDigits n
  have hzeros : ¬ ((Nat.toDigits 10 n).head? = some '0' ∧ (Nat.toDigits 10 n).length > 1) := by
    rintro ⟨hzero, hlength⟩
    rw [Text.eq_zero_of_head?_toDigits hzero] at hlength
    exact absurd hlength (by decide)
  cases hexponent : readExponent? s with
  | none => simp [readMagnitude?, hdigits, hfraction, hexponent]
  | some p =>
    obtain ⟨exponent, rest⟩ := p
    cases exponent <;> simp [readMagnitude?, hdigits, hfraction, hexponent, hvalue, hzeros]

/-- The text of a number behind its sign. -/
def Number.unsignedText : Number → List Char
  | .whole _ n => Nat.toDigits 10 n
  | .decimal _ m e => Nat.toDigits 10 m ++ 'e' :: (toString e).toList

def Number.negative : Number → Bool
  | .whole negative _ => negative
  | .decimal negative _ _ => negative

theorem Number.toList_render (n : Number) :
    n.render.toList = (if n.negative then ['-'] else []) ++ n.unsignedText := by
  cases n with
  | whole negative n => cases negative <;> simp [render, unsignedText, Number.negative]
  | decimal negative m e => cases negative <;> simp [render, unsignedText, Number.negative]

theorem readMagnitude?_render (n : Number) {rest : List Char} (hrest : EndsNumber rest) :
    readMagnitude? n.negative (n.unsignedText ++ rest) = some (n, rest) := by
  cases n with
  | whole negative n =>
    rw [Number.unsignedText,
      readMagnitude?_append _ _ fun c hc => ⟨(hrest c hc).1, (hrest c hc).2.1⟩,
      readExponent?_of_head? fun c hc => (hrest c hc).2.2]
    rfl
  | decimal negative m e =>
    rw [Number.unsignedText, List.append_assoc, List.cons_append,
      readMagnitude?_append _ _ (by simp), readExponent?_append e fun c hc => (hrest c hc).1]
    rfl

/-- The text of a number starts with its sign or a digit. -/
theorem Number.exists_unsignedText (n : Number) :
    ∃ d ds, n.unsignedText = d :: ds ∧ d.isDigit = true ∧ d ≠ '-' := by
  cases n with
  | whole negative n =>
    obtain ⟨d, ds, hdigits, hd, hminus, -⟩ := exists_toDigits_eq_cons n
    exact ⟨d, ds, hdigits, hd, hminus⟩
  | decimal negative m e =>
    obtain ⟨d, ds, hdigits, hd, hminus, -⟩ := exists_toDigits_eq_cons m
    exact ⟨d, ds ++ 'e' :: (toString e).toList, by rw [unsignedText, hdigits]; rfl, hd, hminus⟩

/-- A number is read back in the form in which it was written. -/
theorem readNumber?_render (n : Number) {rest : List Char} (hrest : EndsNumber rest) :
    readNumber? (n.render.toList ++ rest) = some (n, rest) := by
  have hread := readMagnitude?_render n hrest
  rw [Number.toList_render]
  cases hnegative : n.negative with
  | true =>
    rw [hnegative] at hread
    exact (readNumber?_minus _).trans hread
  | false =>
    obtain ⟨d, ds, htext, -, hminus⟩ := n.exists_unsignedText
    rw [hnegative] at hread
    rw [if_neg Bool.false_ne_true, List.nil_append, readNumber?_of_head?, hread]
    rw [htext]
    simpa using hminus

/-! ### What values are read as -/

mutual

/-- The value that the text of a value is read as: a string that has no text is shown by the
replacement character. -/
def shown : Json → Json
  | .null => .null
  | .bool b => .bool b
  | .number n => .number n
  | .string s => .string s
  | .unpairedString => .string "\ufffd"
  | .array items => .array (shownItems items)
  | .object members => .object (shownMembers members)

def shownItems : List Json → List Json
  | [] => []
  | item :: rest => shown item :: shownItems rest

def shownMembers : List (String × Json) → List (String × Json)
  | [] => []
  | (name, value) :: rest => (name, shown value) :: shownMembers rest

end

/-! ### Single values -/

theorem skipGap_cons {c : Char} (hc : isGap c = false) (s : List Char) :
    skipGap (c :: s) = c :: s := by
  rw [skipGap, List.dropWhile_cons_of_neg (by rw [hc]; exact Bool.false_ne_true)]

theorem readValue?_quote (budget : Nat) (s : String) (rest : List Char) :
    readValue? (budget + 1) ((quote s).toList ++ rest) = some (.string s, rest) := by
  have hopen : readValue? (budget + 1) ('"' :: (quoted s ++ rest)) =
      (readString? (quoted s ++ rest).length (some []) (quoted s ++ rest)).bind fun p =>
        some (ofText? p.1, p.2) := rfl
  rw [toList_quote, List.cons_append, hopen, readString?_quoted]
  rfl

theorem readValue?_null (budget : Nat) (rest : List Char) :
    readValue? (budget + 1) ("null".toList ++ rest) = some (.null, rest) := rfl

theorem readValue?_bool (budget : Nat) (b : Bool) (rest : List Char) :
    readValue? (budget + 1) ((if b then "true" else "false").toList ++ rest) =
      some (.bool b, rest) := by
  cases b <;> rfl

theorem readValue?_emptyArray (budget : Nat) (rest : List Char) :
    readValue? (budget + 1) ((render (.array [])).toList ++ rest) = some (.array [], rest) := rfl

theorem readValue?_emptyObject (budget : Nat) (rest : List Char) :
    readValue? (budget + 1) ((render (.object [])).toList ++ rest) = some (.object [], rest) := rfl

/-- The text of a number starts like no other value. -/
theorem Number.exists_render (n : Number) : ∃ c s, n.render.toList = c :: s ∧
    isGap c = false ∧ c ≠ ']' ∧ c ≠ '"' ∧ c ≠ '[' ∧ c ≠ '\x7b' ∧ 'n' ≠ c ∧ 't' ≠ c ∧ 'f' ≠ c := by
  rw [n.toList_render]
  cases n.negative with
  | true => exact ⟨'-', n.unsignedText, rfl, by decide⟩
  | false =>
    obtain ⟨d, ds, htext, hd, -⟩ := n.exists_unsignedText
    have hfirst := Text.of_isDigit (p := fun c => isGap c = false ∧ c ≠ ']' ∧ c ≠ '"' ∧ c ≠ '[' ∧
      c ≠ '\x7b' ∧ 'n' ≠ c ∧ 't' ≠ c ∧ 'f' ≠ c) (by decide) hd
    exact ⟨d, ds, htext, hfirst⟩

theorem readValue?_number (budget : Nat) (n : Number) {rest : List Char}
    (hrest : EndsNumber rest) :
    readValue? (budget + 1) (n.render.toList ++ rest) = some (.number n, rest) := by
  have hread := readNumber?_render n hrest
  obtain ⟨c, s, htext, hgap, -, hquote, hbracket, hbrace, hn, ht, hf⟩ := n.exists_render
  rw [htext, List.cons_append] at hread ⊢
  rw [readValue?, skipGap_cons hgap]
  simp [Text.after?, hquote, hbracket, hbrace, hn, ht, hf, hread]

/-! ### Items and members -/

/-- What is read behind an item of an array. -/
def readItemsBehind? (budget : Nat) (s : List Char) (done : List Json) :
    Option (List Json × List Char) :=
  match skipGap s with
  | ',' :: rest => readItems? budget rest done
  | ']' :: rest => some (done.reverse, rest)
  | _ => none

theorem readItems?_succ (budget : Nat) (s : List Char) (done : List Json) :
    readItems? (budget + 1) s done = (readValue? budget s).bind fun p =>
      readItemsBehind? budget p.2 (p.1 :: done) := by
  rw [readItems?]
  rfl

/-- What is read behind a member of an object. -/
def readMembersBehind? (budget : Nat) (s : List Char) (done : List (String × Json)) :
    Option (List (String × Json) × List Char) :=
  match skipGap s with
  | ',' :: rest => readMembers? budget rest done
  | '\x7d' :: rest => some (done.reverse, rest)
  | _ => none

theorem readMembers?_succ (budget : Nat) (name : String) (s : List Char)
    (done : List (String × Json)) :
    readMembers? (budget + 1) ((quote name).toList ++ ':' :: s) done =
      (readValue? budget s).bind fun p =>
        readMembersBehind? budget p.2 ((name, p.1) :: done) := by
  rw [toList_quote, List.cons_append, readMembers?, skipGap_cons (by decide)]
  show (readString? _ _ (quoted name ++ ':' :: s)).bind _ = _
  rw [readString?_quoted]
  rfl

theorem readValue?_bracket (budget : Nat) {c : Char} (hgap : isGap c = false) (hc : c ≠ ']')
    (s : List Char) : readValue? (budget + 1) ('[' :: c :: s) =
      (readItems? budget (c :: s) []).bind fun p => some (.array p.1, p.2) := by
  rw [readValue?, skipGap_cons (by decide)]
  simp [skipGap_cons hgap, hc]

theorem readValue?_brace (budget : Nat) (s : List Char) :
    readValue? (budget + 1) ('\x7b' :: '"' :: s) =
      (readMembers? budget ('"' :: s) []).bind fun p => some (.object p.1, p.2) := rfl

/-! ### Values in values -/

/-- The text of a value starts with no blank and with no closing bracket. -/
theorem exists_render (j : Json) :
    ∃ c s, j.render.toList = c :: s ∧ isGap c = false ∧ c ≠ ']' := by
  cases j with
  | null => exact ⟨'n', _, rfl, by decide⟩
  | bool b => cases b <;> exact ⟨_, _, rfl, by decide⟩
  | number n =>
    obtain ⟨c, s, htext, hgap, hbracket, -⟩ := n.exists_render
    exact ⟨c, s, htext, hgap, hbracket⟩
  | string s => exact ⟨'"', quoted s, toList_quote s, by decide⟩
  | unpairedString => exact ⟨'"', quoted "\ufffd", toList_quote "\ufffd", by decide⟩
  | array items =>
    refine ⟨'[', (renderItems "" items).toList ++ [']'], ?_, by decide⟩
    simp [render]
  | object members =>
    refine ⟨'\x7b', (renderMembers "" members).toList ++ ['\x7d'], ?_, by decide⟩
    simp [render]

theorem toList_array (items : List Json) :
    (render (.array items)).toList = '[' :: ((renderItems "" items).toList ++ [']']) := by
  simp [render]

theorem toList_object (members : List (String × Json)) : (render (.object members)).toList =
    '\x7b' :: ((renderMembers "" members).toList ++ ['\x7d']) := by
  simp [render]

theorem toList_renderItems (item : Json) (items : List Json) :
    (renderItems "" (item :: items)).toList =
      item.render.toList ++ (renderItems "," items).toList := by
  simp [renderItems]

theorem toList_renderItems_comma (item : Json) (items : List Json) :
    (renderItems "," (item :: items)).toList =
      ',' :: (item.render.toList ++ (renderItems "," items).toList) := by
  simp [renderItems]

theorem toList_renderMembers (name : String) (value : Json) (members : List (String × Json)) :
    (renderMembers "" ((name, value) :: members)).toList =
      (quote name).toList ++
        ':' :: (value.render.toList ++ (renderMembers "," members).toList) := by
  simp [renderMembers]

theorem toList_renderMembers_comma (name : String) (value : Json)
    (members : List (String × Json)) :
    (renderMembers "," ((name, value) :: members)).toList = ',' :: ((quote name).toList ++
      ':' :: (value.render.toList ++ (renderMembers "," members).toList)) := by
  simp [renderMembers]

theorem endsNumber_behindItem (items : List Json) (rest : List Char) :
    EndsNumber ((renderItems "," items).toList ++ ']' :: rest) := by
  cases items <;> simp [EndsNumber, renderItems]

theorem endsNumber_behindMember (members : List (String × Json)) (rest : List Char) :
    EndsNumber ((renderMembers "," members).toList ++ '\x7d' :: rest) := by
  rcases members with _ | ⟨⟨name, value⟩, members⟩ <;> simp [EndsNumber, renderMembers]

mutual

theorem readValue?_render : (j : Json) → ∀ (budget : Nat) (rest : List Char),
    j.render.toList.length ≤ budget + 1 → EndsNumber rest →
    readValue? (budget + 1) (j.render.toList ++ rest) = some (j.shown, rest)
  | .null => by
    intro budget rest _ _
    rw [render, shown, readValue?_null]
  | .bool b => by
    intro budget rest _ _
    rw [render, shown, readValue?_bool]
  | .number n => by
    intro budget rest _ hrest
    rw [render, shown, readValue?_number budget n hrest]
  | .string s => by
    intro budget rest _ _
    rw [render, shown, readValue?_quote]
  | .unpairedString => by
    intro budget rest _ _
    rw [render, shown, readValue?_quote]
  | .array [] => by
    intro budget rest _ _
    rw [readValue?_emptyArray, shown, shownItems]
  | .array (item :: items) => by
    intro budget rest hbudget _
    rw [toList_array, toList_renderItems] at hbudget ⊢
    simp only [List.length_cons, List.length_append] at hbudget
    obtain ⟨c, s, htext, hgap, hbracket⟩ := item.exists_render
    have hpos : 0 < item.render.toList.length := by simp [htext]
    obtain ⟨n, rfl⟩ : ∃ n, budget = n + 2 := ⟨budget - 2, by omega⟩
    have hitem := readValue?_render item n _ (by omega) (endsNumber_behindItem items rest)
    have hitems := readItemsBehind?_render items n rest [item.shown] (by omega)
    have hread : readItems? (n + 2) (item.render.toList ++ ((renderItems "," items).toList ++
        ']' :: rest)) [] = some (shownItems (item :: items), rest) := by
      rw [readItems?_succ, hitem, Option.bind_some, hitems]
      rfl
    rw [htext] at hread ⊢
    simp only [List.cons_append, List.append_assoc, List.nil_append] at hread ⊢
    rw [readValue?_bracket _ hgap hbracket, hread, shown]
    rfl
  | .object [] => by
    intro budget rest _ _
    rw [readValue?_emptyObject, shown, shownMembers]
  | .object ((name, value) :: members) => by
    intro budget rest hbudget _
    rw [toList_object, toList_renderMembers] at hbudget ⊢
    simp only [List.length_cons, List.length_append] at hbudget
    obtain ⟨n, rfl⟩ : ∃ n, budget = n + 2 := ⟨budget - 2, by omega⟩
    have hvalue := readValue?_render value n _ (by omega) (endsNumber_behindMember members rest)
    have hmembers := readMembersBehind?_render members n rest [(name, value.shown)] (by omega)
    have hread : readMembers? (n + 2) ((quote name).toList ++ ':' :: (value.render.toList ++
        ((renderMembers "," members).toList ++ '\x7d' :: rest))) [] =
          some (shownMembers ((name, value) :: members), rest) := by
      rw [readMembers?_succ, hvalue, Option.bind_some, hmembers]
      rfl
    rw [toList_quote] at hread ⊢
    simp only [List.cons_append, List.append_assoc, List.nil_append] at hread ⊢
    rw [readValue?_brace, hread, shown]
    rfl

theorem readItemsBehind?_render : (items : List Json) →
    ∀ (budget : Nat) (rest : List Char) (done : List Json),
    (renderItems "," items).toList.length ≤ budget →
    readItemsBehind? (budget + 1) ((renderItems "," items).toList ++ ']' :: rest) done =
      some (done.reverse ++ shownItems items, rest)
  | [] => by
    intro budget rest done _
    rw [shownItems, List.append_nil]
    rfl
  | item :: items => by
    intro budget rest done hbudget
    rw [toList_renderItems_comma] at hbudget ⊢
    rw [List.length_cons, List.length_append] at hbudget
    obtain ⟨n, rfl⟩ : ∃ n, budget = n + 1 := Nat.exists_eq_add_one.mpr (by omega)
    have hitem := readValue?_render item n _ (by omega) (endsNumber_behindItem items rest)
    have hitems := readItemsBehind?_render items n rest (item.shown :: done) (by omega)
    calc readItemsBehind? (n + 1 + 1)
          (',' :: (item.render.toList ++ (renderItems "," items).toList) ++ ']' :: rest) done
        = readItems? (n + 1 + 1) (item.render.toList ++ (renderItems "," items).toList ++
            ']' :: rest) done := rfl
      _ = some (done.reverse ++ shownItems (item :: items), rest) := by
        rw [readItems?_succ, List.append_assoc, hitem, Option.bind_some, hitems, shownItems,
          List.reverse_cons, List.append_assoc]
        rfl

theorem readMembersBehind?_render : (members : List (String × Json)) →
    ∀ (budget : Nat) (rest : List Char) (done : List (String × Json)),
    (renderMembers "," members).toList.length ≤ budget →
    readMembersBehind? (budget + 1) ((renderMembers "," members).toList ++ '\x7d' :: rest) done =
      some (done.reverse ++ shownMembers members, rest)
  | [] => by
    intro budget rest done _
    rw [shownMembers, List.append_nil]
    rfl
  | (name, value) :: members => by
    intro budget rest done hbudget
    rw [toList_renderMembers_comma] at hbudget ⊢
    simp only [List.length_cons, List.length_append] at hbudget
    obtain ⟨n, rfl⟩ : ∃ n, budget = n + 1 := Nat.exists_eq_add_one.mpr (by omega)
    have hvalue := readValue?_render value n _ (by omega) (endsNumber_behindMember members rest)
    have hmembers := readMembersBehind?_render members n rest
      ((name, value.shown) :: done) (by omega)
    calc readMembersBehind? (n + 1 + 1) (',' :: ((quote name).toList ++ ':' ::
          (value.render.toList ++ (renderMembers "," members).toList)) ++ '\x7d' :: rest) done
        = readMembers? (n + 1 + 1) ((quote name).toList ++ ':' ::
            (value.render.toList ++ (renderMembers "," members).toList) ++ '\x7d' :: rest)
            done := rfl
      _ = some (done.reverse ++ shownMembers ((name, value) :: members), rest) := by
        rw [List.append_assoc, List.cons_append, readMembers?_succ, List.append_assoc, hvalue,
          Option.bind_some, hmembers, shownMembers, List.reverse_cons, List.append_assoc]
        rfl

end

/-- The text of a value is read as that value, but for strings without a text. -/
theorem parse?_render (j : Json) : parse? j.render = some j.shown := by
  have hread := readValue?_render j j.render.toList.length [] (Nat.le_succ _) (by simp [EndsNumber])
  rw [List.append_nil] at hread
  rw [parse?]
  dsimp only
  rw [hread]
  rfl

end FlowAudit.Json
