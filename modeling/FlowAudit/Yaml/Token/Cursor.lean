import FlowAudit.Yaml.Character

/-!
# Places in a text

A cursor is a place in a text: what follows, and how many characters, lines, and characters in its
line are in front.
-/

namespace FlowAudit.Yaml

/-- A place in a text. -/
structure Cursor where
  rest : List Char
  index : Nat
  line : Nat
  column : Nat
  deriving Repr, Inhabited

namespace Cursor

/-- The start of a text. -/
def start (text : List Char) : Cursor :=
  ⟨text, 0, 0, 0⟩

/-- The place behind `n` more characters of the same line. -/
def skip (c : Cursor) (n : Nat) : Cursor :=
  { c with rest := c.rest.drop n, index := c.index + n, column := c.column + n }

/-- The characters in front of the first one that `p` does not hold for, and the place behind
them. -/
def span (c : Cursor) (p : Char → Bool) : List Char × Cursor :=
  let (front, rest) := c.rest.span p
  let n := front.length
  (front, { c with rest, index := c.index + n, column := c.column + n })

/-- The place behind all characters that `p` holds for. -/
def skipWhile (c : Cursor) (p : Char → Bool) : Cursor :=
  (c.span p).2

/-- The break at a place, as it counts in a scalar, and the place behind it. A carriage return with a
line feed is one break, and nothing is the break at the end of the text. -/
def readBreak (c : Cursor) : List Char × Cursor :=
  match c.rest with
  | '\r' :: '\n' :: rest => (['\n'], ⟨rest, c.index + 2, c.line + 1, 0⟩)
  | b :: rest =>
    if isBreak b then
      let counted := if b.toNat = 0x2028 ∨ b.toNat = 0x2029 then b else '\n'
      ([counted], ⟨rest, c.index + 1, c.line + 1, 0⟩)
    else
      ([], c)
  | [] => ([], c)

/-- The place behind the break at a place, if there is one. -/
def skipBreak (c : Cursor) : Cursor :=
  c.readBreak.2

/-- The first character at a place. -/
def head? (c : Cursor) : Option Char :=
  c.rest.head?

/-- Whether the place is at the end of the text. -/
def isAtEnd (c : Cursor) : Bool :=
  c.rest.isEmpty

/-- Whether a gap is at the place. -/
def isAtGap (c : Cursor) : Bool :=
  c.head?.any isGap

/-- Whether a break is at the place. -/
def isAtBreak (c : Cursor) : Bool :=
  c.head?.any isBreak

/-- Whether three characters stand at the place as a word at the start of a line. -/
def isAtMark (c : Cursor) (mark : Char) : Bool :=
  c.column = 0 && c.rest.take 3 = [mark, mark, mark] && endsWord (c.rest.drop 3)

/-- Whether a document starts or ends at the place. -/
def isAtDocumentMark (c : Cursor) : Bool :=
  c.isAtMark '-' || c.isAtMark '.'

/-- What is left of a line that has been read: a gap, a comment, and the break; nothing else may
follow. -/
def finishLine? (c : Cursor) : Option Cursor :=
  let c := c.skipWhile isGap
  let c := if c.head? = some '#' then c.skipWhile (!isBreak ·) else c
  if endsLine c.rest then some c.skipBreak else none

end Cursor

end FlowAudit.Yaml
