import FlowAudit.Yaml.Token.Property

/-!
# Reading tokens

`Token.ofText?` takes a YAML text apart. Two things make that more than reading word by word.

Indentation starts and ends collections: a lexer keeps the columns of the block collections it is in,
and a token in front of one of them ends it.

The key of a mapping is only known by the colon behind it. A token that may start a key is therefore
remembered, one for each level of brackets and braces, and the token `key` is put in front of it when
the colon comes. Such a key has to be on one line and no longer than `maxKeyLength`. Where nothing but
a key may stand, it is an error when no colon comes.
-/

namespace FlowAudit.Yaml

/-- The most characters between the start of a key and its colon. -/
def maxKeyLength : Nat := 1024

/-- A token that may start a key. -/
structure PossibleKey where
  /-- Whether nothing but a key may stand there. -/
  required : Bool
  /-- The number of the token. -/
  token : Nat
  index : Nat
  line : Nat
  column : Nat
  deriving Repr, Inhabited

/-- What has been read of a text. -/
structure Lexer where
  cursor : Cursor
  tokens : Array Token := #[]
  /-- The column of the block collection that is read; minus one outside of all of them. -/
  indent : Int := -1
  /-- The columns of the block collections around it. -/
  outer : List Int := []
  /-- The possible key of each level of brackets and braces, the innermost in front. -/
  keys : List (Option PossibleKey) := [none]
  /-- Whether a key may start here. -/
  keyAllowed : Bool := true

namespace Lexer

/-- Whether the lexer is inside of brackets or braces. -/
def inFlow (l : Lexer) : Bool :=
  l.keys.length > 1

/-- Adds a token. -/
def push (l : Lexer) (t : Token) : Lexer :=
  { l with tokens := l.tokens.push t }

/-- Adds a token of `n` characters. -/
def pushSkip (l : Lexer) (t : Token) (n : Nat) : Lexer :=
  { l.push t with cursor := l.cursor.skip n }

/-! ### Indentation -/

/-- The block ends for all columns behind `column`. -/
def closeTo (column : Int) (tokens : Array Token) (indent : Int) :
    List Int → Array Token × Int × List Int
  | [] => (tokens, indent, [])
  | next :: rest =>
    if indent > column then closeTo column (tokens.push .blockEnd) next rest
    else (tokens, indent, next :: rest)

/-- Ends the block collections that start behind `column`. -/
def unroll (l : Lexer) (column : Int) : Lexer :=
  if l.inFlow then l
  else
    let (tokens, indent, outer) := closeTo column l.tokens l.indent l.outer
    { l with tokens, indent, outer }

/-- Starts a block collection at `column`, if none starts there yet; its token gets the number
`place`. -/
def roll (l : Lexer) (column place : Nat) (t : Token) : Lexer :=
  if l.inFlow || l.indent ≥ column then l
  else
    { l with
      tokens := l.tokens.insertIdxIfInBounds place t
      indent := column
      outer := l.indent :: l.outer }

/-! ### Keys -/

/-- Forgets the possible key of the innermost level. -/
def dropKey? (l : Lexer) : Option Lexer :=
  match l.keys with
  | some k :: rest => if k.required then none else some { l with keys := none :: rest }
  | _ => some l

/-- Remembers that a key may start with the next token. -/
def saveKey? (l : Lexer) : Option Lexer := do
  if l.keyAllowed then
    let l ← l.dropKey?
    let key : PossibleKey := {
      required := !l.inFlow && l.indent = l.cursor.column
      token := l.tokens.size
      index := l.cursor.index
      line := l.cursor.line
      column := l.cursor.column }
    return { l with keys := some key :: l.keys.tail }
  else
    return l

/-- The possible key that a colon would end, unless it is too far away. -/
def takeKey? (l : Lexer) : Option (Option PossibleKey × Lexer) :=
  match l.keys with
  | some k :: rest =>
    let forgotten := { l with keys := none :: rest }
    if k.line < l.cursor.line || k.index + maxKeyLength < l.cursor.index then
      if k.required then none else some (none, forgotten)
    else
      some (some k, forgotten)
  | _ => some (none, l)

/-! ### Tokens -/

/-- Skips gaps, comments and breaks. A break outside of brackets and braces allows a key behind it. A
tab is no gap where a key may start. -/
def skipGaps (inFlow : Bool) : Nat → Bool → Cursor → Bool × Cursor
  | 0, allowed, c => (allowed, c)
  | budget + 1, allowed, c =>
    let c := c.skipWhile fun ch => ch = ' ' || (ch = '\t' && (inFlow || !allowed))
    let c := if c.head? = some '#' then c.skipWhile (!isBreak ·) else c
    if c.isAtBreak then skipGaps inFlow budget (allowed || !inFlow) c.skipBreak
    else (allowed, c)

/-- The lexer at the next token. -/
def toNext (l : Lexer) : Lexer :=
  let c := l.cursor
  let c := if c.index = 0 && c.head? = some byteOrderMark then c.skip 1 else c
  let (keyAllowed, cursor) := skipGaps l.inFlow (c.rest.length + 1) l.keyAllowed c
  { l with cursor, keyAllowed }

/-- Reads the end of the text. -/
def readEnd? (l : Lexer) : Option Lexer :=
  (l.unroll (-1)).dropKey?

/-- Reads a mark where a document starts or ends. -/
def readDocumentMark? (l : Lexer) (t : Token) : Option Lexer := do
  let l ← (l.unroll (-1)).dropKey?
  return { l.pushSkip t 3 with keyAllowed := false }

/-- Reads a directive. -/
def readDirective? (l : Lexer) : Option Lexer := do
  let l ← (l.unroll (-1)).dropKey?
  let (t, cursor) ← Yaml.readDirective? (l.cursor.skip 1)
  return { l.push t with cursor, keyAllowed := false }

/-- Reads an opening bracket or brace. -/
def readOpening? (l : Lexer) (t : Token) : Option Lexer := do
  let l ← l.saveKey?
  return { l.pushSkip t 1 with keys := none :: l.keys, keyAllowed := true }

/-- Reads a closing bracket or brace. -/
def readClosing? (l : Lexer) (t : Token) : Option Lexer := do
  let l ← l.dropKey?
  let keys := if l.inFlow then l.keys.tail else l.keys
  return { l.pushSkip t 1 with keys, keyAllowed := false }

/-- Reads a comma. -/
def readComma? (l : Lexer) : Option Lexer := do
  let l ← l.dropKey?
  return { l.pushSkip .flowEntry 1 with keyAllowed := true }

/-- Reads the indicator of an item of a block sequence. -/
def readEntry? (l : Lexer) : Option Lexer := do
  if !l.inFlow && !l.keyAllowed then none
  let l ← (l.roll l.cursor.column l.tokens.size .blockSequenceStart).dropKey?
  return { l.pushSkip .blockEntry 1 with keyAllowed := true }

/-- Reads the indicator of a key. -/
def readKey? (l : Lexer) : Option Lexer := do
  if !l.inFlow && !l.keyAllowed then none
  let l ← (l.roll l.cursor.column l.tokens.size .blockMappingStart).dropKey?
  return { l.pushSkip .key 1 with keyAllowed := !l.inFlow }

/-- Reads the indicator of a value. -/
def readValue? (l : Lexer) : Option Lexer := do
  match ← l.takeKey? with
  | (some k, l) =>
    let l := { l with tokens := l.tokens.insertIdxIfInBounds k.token .key }
    return { (l.roll k.column k.token .blockMappingStart).pushSkip .value 1 with keyAllowed := false }
  | (none, l) =>
    if !l.inFlow && !l.keyAllowed then none
    let l := l.roll l.cursor.column l.tokens.size .blockMappingStart
    return { l.pushSkip .value 1 with keyAllowed := !l.inFlow }

/-- Reads an alias or an anchor. -/
def readAnchor? (l : Lexer) (t : String → Token) : Option Lexer := do
  let l ← l.saveKey?
  let (name, cursor) ← readAnchorName? (l.cursor.skip 1)
  return { l.push (t name) with cursor, keyAllowed := false }

/-- Reads a tag. -/
def readTag? (l : Lexer) : Option Lexer := do
  let l ← l.saveKey?
  let (t, cursor) ← Yaml.readTag? l.inFlow l.cursor
  return { l.push t with cursor, keyAllowed := false }

/-- Reads a block. -/
def readBlock? (l : Lexer) (style : ScalarStyle) : Option Lexer := do
  let l ← l.dropKey?
  let (text, cursor) ← Yaml.readBlock? (style = .literal) l.indent (l.cursor.skip 1)
  return { l.push (.scalar style text) with cursor, keyAllowed := true }

/-- Reads a quoted scalar. -/
def readQuoted? (l : Lexer) (style : ScalarStyle) : Option Lexer := do
  let l ← l.saveKey?
  let c := l.cursor.skip 1
  let (text, cursor) ← Yaml.readQuoted? (style = .singleQuoted) (c.rest.length + 1) [] c
  return { l.push (.scalar style text) with cursor, keyAllowed := false }

/-- Reads a plain scalar. A break behind it allows a key. -/
def readPlain? (l : Lexer) : Option Lexer := do
  let l ← l.saveKey?
  let c := l.cursor
  let (scalar, cursor) ←
    Yaml.readPlain? l.inFlow (l.indent + 1).toNat (c.rest.length + 1) [] {} c
  return { l.push (.scalar .plain scalar.text) with cursor, keyAllowed := scalar.broken }

/-- Whether a plain scalar may start with a character, which is followed by `rest`. -/
def startsPlain (inFlow : Bool) (c : Char) (rest : List Char) : Bool :=
  !(isIndicator c || isGap c) || (c = '-' && !rest.head?.any isGap) ||
    (!inFlow && (c = '?' || c = ':') && !endsWord rest)

/-- Reads the token that starts with a character, which is followed by `rest`. -/
def readToken? (l : Lexer) (c : Char) (rest : List Char) : Option Lexer :=
  if l.cursor.column = 0 && c = '%' then l.readDirective?
  else if l.cursor.isAtMark '-' then l.readDocumentMark? .documentStart
  else if l.cursor.isAtMark '.' then l.readDocumentMark? .documentEnd
  else if c = '[' then l.readOpening? .flowSequenceStart
  else if c = '\x7b' then l.readOpening? .flowMappingStart
  else if c = ']' then l.readClosing? .flowSequenceEnd
  else if c = '\x7d' then l.readClosing? .flowMappingEnd
  else if c = ',' then l.readComma?
  else if c = '-' && endsWord rest then l.readEntry?
  else if c = '?' && (l.inFlow || endsWord rest) then l.readKey?
  else if c = ':' && (l.inFlow || endsWord rest) then l.readValue?
  else if c = '*' then l.readAnchor? .reference
  else if c = '&' then l.readAnchor? .anchor
  else if c = '!' then l.readTag?
  else if c = '|' && !l.inFlow then l.readBlock? .literal
  else if c = '>' && !l.inFlow then l.readBlock? .folded
  else if c = '\'' then l.readQuoted? .singleQuoted
  else if c = '"' then l.readQuoted? .doubleQuoted
  else if startsPlain l.inFlow c rest then l.readPlain?
  else none

/-- Reads all tokens; each takes at least one character. -/
def readAll? : Nat → Lexer → Option Lexer
  | 0, _ => none
  | budget + 1, l => do
    let l := l.toNext
    let l := l.unroll l.cursor.column
    match l.cursor.rest with
    | [] => l.readEnd?
    | c :: rest => readAll? budget (← l.readToken? c rest)

end Lexer

/-- The tokens of a text. -/
def Token.ofText? (text : String) : Option (List Token) := do
  let chars := text.toList
  if !chars.all isAllowed then none
  let l ← Lexer.readAll? (chars.length + 1) { cursor := .start chars }
  return l.tokens.toList

end FlowAudit.Yaml
