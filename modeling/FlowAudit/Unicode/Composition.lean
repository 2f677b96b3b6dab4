import Std.Data.HashMap
import FlowAudit.Unicode.Table.CombiningClass
import FlowAudit.Unicode.Table.Decomposition

/-!
# Composed texts

`compose` brings a text into the form in which equivalent texts are equal: every character is taken
apart, marks behind a character are put in the order of their combining classes, and what can be put
together is put together again. Texts of ASCII characters have this form already.
-/

namespace FlowAudit.Unicode

/-- The combining class of a character: zero for one that starts anew. -/
def combiningClass (c : Char) : Nat :=
  if c.toNat < 0x300 then 0 else ((numbersFrom [] ((combiningClassRuns.tag c).drop 1)).head?).getD 0

/-! ### Syllables of Hangul -/

/-- The first syllable, and the first of each kind of letter. A syllable has a leading letter, a vowel
and perhaps a trailing letter, which count from one before the first. -/
def hangulBase : Nat := 0xAC00
def hangulLead : Nat := 0x1100
def hangulVowel : Nat := 0x1161
def hangulTrail : Nat := 0x11A7

/-- The letters of a syllable. -/
def hangulLetters? (c : Char) : Option (List Char) :=
  let n := c.toNat
  if n < hangulBase ∨ hangulBase + 11172 ≤ n then none
  else
    let i := n - hangulBase
    let lead := Char.ofNat (hangulLead + i / 588)
    let vowel := Char.ofNat (hangulVowel + i % 588 / 28)
    if i % 28 = 0 then some [lead, vowel]
    else some [lead, vowel, Char.ofNat (hangulTrail + i % 28)]

/-- The syllable that two letters, or a syllable and a trailing letter, make up. -/
def hangulSyllable? (a b : Char) : Option Char :=
  let a := a.toNat
  let b := b.toNat
  if hangulLead ≤ a ∧ a < hangulLead + 19 ∧ hangulVowel ≤ b ∧ b < hangulVowel + 21 then
    some (Char.ofNat (hangulBase + ((a - hangulLead) * 21 + (b - hangulVowel)) * 28))
  else if hangulBase ≤ a ∧ a < hangulBase + 11172 ∧ (a - hangulBase) % 28 = 0 ∧
      hangulTrail < b ∧ b < hangulTrail + 28 then
    some (Char.ofNat (a + (b - hangulTrail)))
  else
    none

/-! ### Taking apart -/

/-- No character has to be taken apart more often than this. -/
def maxDecompositions : Nat := 8

/-- Takes a character apart, and what it gives, at most `depth` times. -/
def decomposeChar : (depth : Nat) → Char → List Char
  | 0, c => [c]
  | depth + 1, c =>
    if c.toNat < 0xC0 then [c]
    else
      match hangulLetters? c with
      | some letters => letters
      | none =>
        match decompositionRuns.tag c with
        | [] => [c]
        | tag => (charsOfTag tag).flatMap (decomposeChar depth)

/-- Puts marks in the order of their classes, each group of marks by itself; `marks` stand before. -/
def orderMarks (marks : List Char) : List Char → List Char
  | [] => marks.mergeSort fun a b => combiningClass a ≤ combiningClass b
  | c :: rest =>
    if combiningClass c = 0 then
      marks.mergeSort (fun a b => combiningClass a ≤ combiningClass b) ++ c :: orderMarks [] rest
    else
      orderMarks (marks ++ [c]) rest

/-- Takes a text apart. -/
def decompose (s : List Char) : List Char :=
  orderMarks [] (s.flatMap (decomposeChar maxDecompositions))

/-! ### Putting together -/

/-- The pairs of characters that can be put together, by their numbers. -/
def compositions : Std.HashMap (Nat × Nat) Char :=
  let runs := decompositionRuns.starts.zip decompositionRuns.tags
  runs.foldl (fun pairs (n, tag) =>
    match tag with
    | 'C' :: _ =>
      match charsOfTag tag with
      | [a, b] => pairs.insert (a.toNat, b.toNat) (Char.ofNat n)
      | _ => pairs
    | _ => pairs) ∅

/-- The character that two characters make up. -/
def composite? (a b : Char) : Option Char :=
  match hangulSyllable? a b with
  | some c => some c
  | none => compositions[(a.toNat, b.toNat)]?

/-- Puts a text together behind the character `start` and the marks `marks` that stay with it, which
are in reverse. A character is put together with `start` unless a mark of a class that is not lower
stands between them. -/
def composeFrom (start : Char) (marks : List Char) : List Char → List Char
  | [] => start :: marks.reverse
  | c :: rest =>
    let free := match marks with
      | [] => true
      | m :: _ => combiningClass m < combiningClass c
    match (if free then composite? start c else none) with
    | some d => composeFrom d marks rest
    | none =>
      if combiningClass c = 0 then start :: marks.reverse ++ composeFrom c [] rest
      else composeFrom start (c :: marks) rest

/-- Puts a text together that was taken apart. -/
def recompose : List Char → List Char
  | [] => []
  | c :: rest => composeFrom c [] rest

/-- Whether a character is one of ASCII. -/
def isAscii (c : Char) : Bool :=
  c.toNat < 0x80

/-- The composed form of a text. -/
def compose (s : List Char) : List Char :=
  if s.all isAscii then s else recompose (decompose s)

end FlowAudit.Unicode
