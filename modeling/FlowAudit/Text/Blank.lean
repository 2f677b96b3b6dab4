/-!
# Blank characters, words and lines

The tables this library reads are plain text: one row a line, fields set apart by blanks. A blank
is any character with the Unicode property `White_Space`, which is a larger set than
`Char.isWhitespace`.

All functions work on `List Char`, so that facts about them follow the list.
-/

namespace FlowAudit.Text

/-! ### Blanks -/

/-- The characters with the Unicode property `White_Space`. -/
def isBlank (c : Char) : Bool :=
  let n := c.toNat
  (0x09 ≤ n && n ≤ 0x0D) || n == 0x20 || n == 0x85 || n == 0xA0 || n == 0x1680 ||
    (0x2000 ≤ n && n ≤ 0x200A) || n == 0x2028 || n == 0x2029 || n == 0x202F || n == 0x205F ||
    n == 0x3000

/-- Drops the blanks at the front. -/
def trimStart (s : List Char) : List Char :=
  s.dropWhile isBlank

/-- Drops the blanks at both ends. -/
def trim (s : List Char) : List Char :=
  (trimStart (trimStart s).reverse).reverse

/-! ### Words -/

/-- The words of a text behind the unfinished word `pending`, whose characters are in reverse. -/
def wordsFrom (pending : List Char) : List Char → List (List Char)
  | [] => if pending.isEmpty then [] else [pending.reverse]
  | c :: rest =>
    if isBlank c then
      if pending.isEmpty then wordsFrom [] rest else pending.reverse :: wordsFrom [] rest
    else
      wordsFrom (c :: pending) rest

/-- The maximal runs of characters that are not blank, in order. -/
def words (s : List Char) : List (List Char) :=
  wordsFrom [] s

/-! ### Lines -/

/-- A line without the carriage return of its line end; `line` is in reverse. -/
def finishLine : List Char → List Char
  | '\r' :: line => line.reverse
  | line => line.reverse

/-- The lines of a text behind the unfinished line `pending`, whose characters are in reverse. -/
def linesFrom (pending : List Char) : List Char → List (List Char)
  | [] => if pending.isEmpty then [] else [pending.reverse]
  | '\n' :: rest => finishLine pending :: linesFrom [] rest
  | c :: rest => linesFrom (c :: pending) rest

/-- The lines of a text. A line ends with a line feed or with a carriage return and a line feed;
the last one may lack its end, and then it keeps a carriage return. -/
def lines (s : List Char) : List (List Char) :=
  linesFrom [] s

/-! ### Pieces -/

/-- Splits at the first occurrence of `sep`; `none` when there is none. -/
def splitOnce? (sep : Char) : List Char → Option (List Char × List Char)
  | [] => none
  | c :: rest =>
    if c = sep then some ([], rest) else (splitOnce? sep rest).map fun p => (c :: p.1, p.2)

/-- What follows `start` at the front of a text; `none` when the text starts otherwise. -/
def after? : (start : List Char) → List Char → Option (List Char)
  | [], s => some s
  | _ :: _, [] => none
  | c :: start, d :: s => if c = d then after? start s else none

end FlowAudit.Text
