import FlowAudit.Text.Numeral
import FlowAudit.Yaml.Token.Cursor

/-!
# Reading scalars

A scalar is written plainly, in quotes, or as a block of lines. Plain and quoted scalars may go over
several lines, which are folded: one break counts as a blank, further ones as themselves, and gaps
around breaks do not count. A block is taken literally, or folded where its lines are not indented
further.

The readers take a budget of steps; each step moves the cursor or is the last, so the length of what
follows is enough.
-/

namespace FlowAudit.Yaml

/-! ### Gaps inside scalars -/

/-- What stands between two words of a scalar. -/
structure ScalarGap where
  /-- The gap, if there is no break, in reverse. -/
  blanks : List Char := []
  /-- Whether there is a break. -/
  broken : Bool := false
  /-- The first break; nothing if it does not count. -/
  first : List Char := []
  /-- The further breaks. -/
  more : List Char := []

/-- What a gap counts as. -/
def ScalarGap.folded (g : ScalarGap) : List Char :=
  if !g.broken then g.blanks.reverse
  else if g.first = ['\n'] then (if g.more = [] then [' '] else g.more)
  else g.first ++ g.more

/-- Reads gaps and breaks. A tab is refused in front of column `indent` on a further line. -/
def readScalarGap? (indent : Nat) : Nat → ScalarGap → Cursor → Option (ScalarGap × Cursor)
  | 0, _, _ => none
  | budget + 1, g, c =>
    match c.rest with
    | [] => some (g, c)
    | ch :: _ =>
      if isGap ch then
        if g.broken then
          if ch = '\t' && c.column < indent then none
          else readScalarGap? indent budget g (c.skip 1)
        else
          readScalarGap? indent budget { g with blanks := ch :: g.blanks } (c.skip 1)
      else if isBreak ch then
        let (b, c) := c.readBreak
        if g.broken then readScalarGap? indent budget { g with more := g.more ++ b } c
        else readScalarGap? indent budget { g with broken := true, first := b } c
      else
        some (g, c)

/-! ### Plain scalars -/

/-- The characters of a plain scalar up to a gap or to what ends it, and how many. In brackets or
braces a colon must not stand directly in front of one of those. -/
def plainRun? (inFlow : Bool) : List Char → Option (List Char)
  | [] => some []
  | c :: rest =>
    if isGap c || isBreak c then some []
    else if inFlow && c = ':' && rest.head?.any (fun d => d = '?' || isFlowIndicator d) then none
    else if c = ':' && endsWord rest then some []
    else if inFlow && isFlowIndicator c then some []
    else (plainRun? inFlow rest).map (c :: ·)

/-- A plain scalar that was read. -/
structure PlainScalar where
  text : String
  /-- Whether there is a break behind it. -/
  broken : Bool

/-- Reads a plain scalar behind the characters in `done`, which are in reverse, and a gap. Outside of
brackets and braces further lines have to start at column `indent` or behind it. -/
def readPlain? (inFlow : Bool) (indent : Nat) :
    Nat → List Char → ScalarGap → Cursor → Option (PlainScalar × Cursor)
  | 0, _, _, _ => none
  | budget + 1, done, gap, c => do
    let finished : PlainScalar × Cursor := (⟨String.ofList done.reverse, gap.broken⟩, c)
    if c.isAtDocumentMark || c.head? = some '#' then some finished
    else
      let run ← plainRun? inFlow c.rest
      let c := c.skip run.length
      let (done, gap) :=
        if run.isEmpty then (done, gap)
        else (run.reverse ++ gap.folded.reverse ++ done, ({} : ScalarGap))
      if c.isAtGap || c.isAtBreak then
        let (gap, c) ← readScalarGap? indent (c.rest.length + 1) gap c
        if !inFlow && c.column < indent then
          some (⟨String.ofList done.reverse, gap.broken⟩, c)
        else
          readPlain? inFlow indent budget done gap c
      else
        some (⟨String.ofList done.reverse, gap.broken⟩, c)

/-! ### Quoted scalars -/

/-- The character that an escape with a single letter stands for. -/
def simpleEscape? : Char → Option Char
  | '0' => some '\x00'
  | 'a' => some '\x07'
  | 'b' => some '\x08'
  | 't' | '\t' => some '\t'
  | 'n' => some '\n'
  | 'v' => some '\x0b'
  | 'f' => some '\x0c'
  | 'r' => some '\r'
  | 'e' => some '\x1b'
  | ' ' => some ' '
  | '"' => some '"'
  | '/' => some '/'
  | '\\' => some '\\'
  | 'N' => some (Char.ofNat 0x85)
  | '_' => some (Char.ofNat 0xA0)
  | 'L' => some (Char.ofNat 0x2028)
  | 'P' => some (Char.ofNat 0x2029)
  | _ => none

/-- The number of digits of an escape that gives the number of a character. -/
def escapeDigits? : Char → Option Nat
  | 'x' => some 2
  | 'u' => some 4
  | 'U' => some 8
  | _ => none

/-- The character with a number; halves of surrogate pairs are none. -/
def charOfNumber? (n : Nat) : Option Char :=
  if n.isValidChar then some (Char.ofNat n) else none

/-- Reads an escape behind its backslash: the character, and how many characters it takes. -/
def readEscape? : List Char → Option (Char × Nat)
  | [] => none
  | c :: rest =>
    match simpleEscape? c, escapeDigits? c with
    | some x, _ => some (x, 1)
    | none, some count => do
      let digits := rest.take count
      if digits.length < count then none
      let n ← Text.ofDigits? 16 digits
      return (← charOfNumber? n, count + 1)
    | none, none => none

/-- The quote around a scalar. -/
def quoteChar (single : Bool) : Char :=
  if single then '\'' else '"'

/-- Reads characters in quotes up to a gap, a break or the closing quote, behind those in `done`,
which are in reverse. Also tells whether a break that does not count was the end. -/
def readQuotedRun? (single : Bool) : Nat → List Char → Cursor → Option (List Char × Bool × Cursor)
  | 0, _, _ => none
  | budget + 1, done, c =>
    if endsWord c.rest then some (done, false, c)
    else
      match single, c.rest with
      | true, '\'' :: '\'' :: _ => readQuotedRun? single budget ('\'' :: done) (c.skip 2)
      | false, '\\' :: rest =>
        if rest.head?.any isBreak then some (done, true, (c.skip 1).skipBreak)
        else
          match readEscape? rest with
          | some (x, length) => readQuotedRun? single budget (x :: done) (c.skip (length + 1))
          | none => none
      | _, ch :: _ =>
        if ch = quoteChar single then some (done, false, c)
        else readQuotedRun? single budget (ch :: done) (c.skip 1)
      | _, [] => none

/-- Reads a quoted scalar behind its opening quote and the characters in `done`, which are in
reverse. -/
def readQuoted? (single : Bool) : Nat → List Char → Cursor → Option (String × Cursor)
  | 0, _, _ => none
  | budget + 1, done, c => do
    if c.isAtDocumentMark || c.isAtEnd then none
    let (done, escaped, c) ← readQuotedRun? single (c.rest.length + 1) done c
    if c.head? = some (quoteChar single) then
      return (String.ofList done.reverse, c.skip 1)
    else
      let (gap, c) ← readScalarGap? 0 (c.rest.length + 1) { broken := escaped } c
      readQuoted? single budget (gap.folded.reverse ++ done) c

/-! ### Blocks -/

/-- What becomes of the breaks at the end of a block. -/
inductive Chomping where
  /-- None counts. -/
  | strip
  /-- The first one counts. -/
  | clip
  /-- All count. -/
  | keep
  deriving DecidableEq, Repr, Inhabited

/-- What stands behind the indicator of a block. -/
structure BlockHeader where
  chomping : Chomping
  /-- How much further the block is indented than what it is in, if it says so. -/
  increment : Option Nat

/-- Reads how a block ends. -/
def readChomping (c : Cursor) : Option Chomping × Cursor :=
  match c.head? with
  | some '+' => (some .keep, c.skip 1)
  | some '-' => (some .strip, c.skip 1)
  | _ => (none, c)

/-- Reads how far a block is indented; zero is refused. -/
def readIncrement? (c : Cursor) : Option (Option Nat × Cursor) :=
  match c.head? with
  | some d =>
    if d = '0' then none
    else if d.isDigit then some (some (d.toNat - '0'.toNat), c.skip 1)
    else some (none, c)
  | none => some (none, c)

/-- Reads what stands behind the indicator of a block, in either order. -/
def readBlockHeader? (c : Cursor) : Option (BlockHeader × Cursor) := do
  let (before, c) := readChomping c
  let (increment, c) ← readIncrement? c
  let (behind, c) := if before.isNone && increment.isSome then readChomping c else (before, c)
  return (⟨behind.getD .clip, increment⟩, ← c.finishLine?)

/-- Reads indentation and empty lines in a block that is indented by `indent`, or as far as its first
line if that is zero. Answers the breaks, and the column that was reached at most. -/
def readBlockGap? (indent : Nat) : Nat → Nat → List Char → Cursor → Option (List Char × Nat × Cursor)
  | 0, _, _, _ => none
  | budget + 1, deepest, breaks, c =>
    let spaces := (c.rest.takeWhile (· = ' ')).length
    let c := c.skip (if indent = 0 then spaces else min spaces (indent - c.column))
    let deepest := max deepest c.column
    if (indent = 0 || c.column < indent) && c.head? = some '\t' then none
    else if c.isAtBreak then
      let (b, c) := c.readBreak
      readBlockGap? indent budget deepest (breaks ++ b) c
    else
      some (breaks, deepest, c)

/-- What has been read of a block. -/
structure BlockText where
  /-- The lines, in reverse. -/
  done : List Char := []
  /-- The break behind the last line. -/
  first : List Char := []
  /-- The breaks of empty lines behind that. -/
  more : List Char := []
  /-- Whether the last line is indented further. -/
  indented : Bool := false

/-- What the breaks in front of a further line count as. -/
def BlockText.folded (b : BlockText) (literal indented : Bool) : List Char :=
  if !literal && b.first = ['\n'] && !b.indented && !indented then
    if b.more = [] then [' '] else b.more
  else
    b.first ++ b.more

/-- Reads the lines of a block that is indented by `indent`. -/
def readBlockLines? (literal : Bool) (indent : Nat) :
    Nat → BlockText → Cursor → Option (BlockText × Cursor)
  | 0, _, _ => none
  | budget + 1, b, c =>
    if c.column = indent && !c.isAtEnd then do
      let indented := c.isAtGap
      let (line, c) := c.span (!isBreak ·)
      let done := line.reverse ++ (b.folded literal indented).reverse ++ b.done
      let (first, c) := c.readBreak
      let (more, _, c) ← readBlockGap? indent (c.rest.length + 1) 0 [] c
      readBlockLines? literal indent budget ⟨done, first, more, indented⟩ c
    else
      some (b, c)

/-- Reads a block behind its indicator, in something that is indented by `outer`, which is minus one
outside of everything. -/
def readBlock? (literal : Bool) (outer : Int) (c : Cursor) : Option (String × Cursor) := do
  let (header, c) ← readBlockHeader? c
  let given : Nat := match header.increment with
    | some n => (max outer 0).toNat + n
    | none => 0
  let (more, deepest, c) ← readBlockGap? given (c.rest.length + 1) 0 [] c
  let indent := if given = 0 then max deepest (max (outer + 1).toNat 1) else given
  let (b, c) ← readBlockLines? literal indent (c.rest.length + 1) { more } c
  let tail := match header.chomping with
    | .strip => []
    | .clip => b.first
    | .keep => b.first ++ b.more
  return (String.ofList (b.done.reverse ++ tail), c)

end FlowAudit.Yaml
