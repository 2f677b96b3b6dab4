import FlowAudit.Text.Numeral

/-!
# Punycode

Punycode writes any text with letters, digits and hyphens (RFC 3492): first the ASCII characters of
the text, then, behind a hyphen if there are any, how the other characters are inserted into them. An
insertion is a number that says how many steps lie between it and the one before, when all places of
the text are gone through for one character after the other. Numbers are written in base 36, the lowest
digit first, in a notation in which a digit below a threshold is the last one; thresholds adapt to the
numbers seen.

Numbers may be of any size. One that does not fit into thirty-two bits leads behind the last character
there is in every text of fewer than 3855 characters, and is refused for that.
-/

namespace FlowAudit.Punycode

/-- The threshold of the digit with the given index. -/
def threshold (bias index : Nat) : Nat :=
  let k := 36 * (index + 1)
  if k ≤ bias then 1 else if bias + 26 ≤ k then 26 else k - bias

theorem one_le_threshold (bias index : Nat) : 1 ≤ threshold bias index := by
  unfold threshold
  dsimp only
  split
  · omega
  · split <;> omega

theorem threshold_le (bias index : Nat) : threshold bias index ≤ 26 := by
  unfold threshold
  dsimp only
  split
  · omega
  · split <;> omega

/-- The bias behind a scaled number of steps, which is divided as long as it is large; `base` counts
the divisions in steps of 36. -/
def biasFrom (base steps : Nat) : Nat :=
  if steps > 455 then biasFrom (base + 36) (steps / 35) else base + 36 * steps / (steps + 38)
termination_by steps

/-- The bias behind a number, when the text has `length` characters so far. -/
def adapt (steps length : Nat) (first : Bool) : Nat :=
  let scaled := if first then steps / 700 else steps / 2
  biasFrom 0 (scaled + scaled / length)

/-- The bias before the first number. -/
def initialBias : Nat := 72

/-- The number of the first character that is not ASCII. -/
def firstCode : Nat := 0x80

/-! ### Reading -/

/-- The value of a digit: letters count from zero, decimal digits from twenty-six. -/
def digitValue? (c : Char) : Option Nat :=
  (Text.digitValue? c).map fun v => if v ≥ 10 then v - 10 else v + 26

/-- Reads a number from its digits, and answers it with the rest; `weight` is that of the next
digit. -/
def readNumber? (bias index weight value : Nat) : List Char → Option (Nat × List Char)
  | [] => none
  | c :: rest =>
    match digitValue? c with
    | none => none
    | some d =>
      let value := value + d * weight
      let t := threshold bias index
      if d < t then some (value, rest)
      else readNumber? bias (index + 1) (weight * (36 - t)) value rest

/-- Reading a number takes a digit at least. -/
theorem length_lt_of_readNumber? {bias index weight value : Nat} {s rest : List Char} {n : Nat}
    (h : readNumber? bias index weight value s = some (n, rest)) : rest.length < s.length := by
  induction s generalizing index weight value with
  | nil => simp [readNumber?] at h
  | cons c s ih =>
    simp only [readNumber?] at h
    split at h
    · cases h
    · split at h
      · cases h
        simp
      · exact Nat.lt_succ_of_lt (ih h)

/-- Inserts the characters that numbers say into `text`. The last character inserted has the number
`code`, and `place` is the one behind it. -/
def insertAll? (text : List Char) (code place bias : Nat) (s : List Char) : Option (List Char) :=
  if s = [] then some text
  else
    match _h : readNumber? bias 0 1 0 s with
    | none => none
    | some (steps, rest) =>
      let length := text.length + 1
      let code := code + (place + steps) / length
      if code > 0x10FFFF ∨ (0xD800 ≤ code ∧ code ≤ 0xDFFF) then none
      else
        let next := (place + steps) % length
        insertAll? (text.take next ++ Char.ofNat code :: text.drop next) code (next + 1)
          (adapt steps length (place = 0)) rest
termination_by s.length
decreasing_by exact length_lt_of_readNumber? ‹_›

/-- The part in front of the last hyphen and the part behind it; without hyphen the first part is
empty. -/
def splitParts (s : List Char) : List Char × List Char :=
  let back := (s.reverse.takeWhile (· ≠ '-')).reverse
  (s.take (s.length - back.length - 1), back)

/-- The text that a text in Punycode stands for. -/
def decode? (s : List Char) : Option (List Char) :=
  let (basic, numbers) := splitParts s
  if s.head? = some '-' && basic.isEmpty then none
  else insertAll? basic firstCode 0 initialBias numbers

/-! ### Writing -/

/-- The digit with the given value. -/
def digit (n : Nat) : Char :=
  if n < 26 then Char.ofNat ('a'.toNat + n) else Char.ofNat ('0'.toNat + (n - 26))

/-- The digits of a number, from the digit with the given index on. -/
def writeNumber (bias index n : Nat) : List Char :=
  let t := threshold bias index
  if n < t then [digit n]
  else digit (t + (n - t) % (36 - t)) :: writeNumber bias (index + 1) ((n - t) / (36 - t))
termination_by n
decreasing_by
  have h₁ := one_le_threshold bias index
  have h₂ := threshold_le bias index
  have h₃ := Nat.div_le_self (n - threshold bias index) (36 - threshold bias index)
  omega

/-- What is written so far, and what the next number depends on. -/
structure Writing where
  written : List Char := []
  /-- The steps since the last number. -/
  steps : Nat := 0
  bias : Nat := initialBias
  /-- The number of characters that the text read so far has. -/
  length : Nat

/-- Goes past a place of the text while the character with number `code` is inserted. -/
def Writing.pass (basic code : Nat) (w : Writing) (c : Char) : Writing :=
  if c.toNat < code then { w with steps := w.steps + 1 }
  else if c.toNat = code then
    { written := w.written ++ writeNumber w.bias 0 w.steps
      steps := 0
      bias := adapt w.steps (w.length + 1) (w.length = basic)
      length := w.length + 1 }
  else w

/-- Writes the numbers for the characters with the given numbers, which ascend; `code` is the next
one to be tried. -/
def writeAll (text : List Char) (basic code : Nat) (w : Writing) : List Nat → Writing
  | [] => w
  | m :: rest =>
    let w := { w with steps := w.steps + (m - code) * (w.length + 1) }
    let w := text.foldl (Writing.pass basic m) w
    writeAll text basic (m + 1) { w with steps := w.steps + 1 } rest

/-- The text in Punycode. -/
def encode (text : List Char) : List Char :=
  let basic := text.filter (·.toNat < firstCode)
  let codes := ((text.map Char.toNat).filter (firstCode ≤ ·)).mergeSort.eraseDups
  let w := writeAll text basic.length firstCode { length := basic.length } codes
  basic ++ (if basic.isEmpty then [] else ['-']) ++ w.written

end FlowAudit.Punycode
