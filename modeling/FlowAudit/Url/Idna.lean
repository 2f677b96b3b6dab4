import FlowAudit.Text.Blank
import FlowAudit.Text.Numeral
import FlowAudit.Unicode.Composition
import FlowAudit.Unicode.Table.BidiClass
import FlowAudit.Unicode.Table.DomainMapping
import FlowAudit.Unicode.Table.JoiningType
import FlowAudit.Unicode.Table.Mark
import FlowAudit.Url.Punycode

/-!
# Internationalised domain names

`Idna.toAscii?` brings a domain name into the form in which it is looked up (UTS #46): characters are
mapped, most of them to lower case; the text is composed; and each label with a character that is not
ASCII is written in Punycode behind `xn--`. A name is refused when

* a character of it is not allowed, by the mapping or because it has a meaning in URLs;
* a label starts with a mark, or a joiner stands where it joins nothing;
* a label that is given in Punycode does not stand for a label in that form;
* the name has a character written from right to left, and a label mixes directions.

Neither the length of labels nor where hyphens stand is limited, and labels may be empty.
-/

namespace FlowAudit.Idna

open Unicode

/-! ### Mapping -/

/-- The number in a tag behind its letter. -/
def numberOfTag (tag : List Char) : Nat :=
  ((numbersFrom [] (tag.drop 1)).head?).getD 0

/-- What a character becomes; `none` when it is not allowed. -/
def mapChar? (c : Char) : Option (List Char) :=
  if isAscii c then some [c.toLower]
  else
    let (tag, place) := domainMappingRuns.find c
    match tag.head? with
    | some 'V' => some [c]
    | some 'I' => some []
    | some 'M' => some (charsOfTag tag)
    | some 'P' => some [Char.ofNat (c.toNat + numberOfTag tag)]
    | some 'N' => some [Char.ofNat (c.toNat - numberOfTag tag)]
    | some 'E' => some [if place % 2 = 0 then Char.ofNat (c.toNat + 1) else c]
    | _ => none

/-- What a text becomes. -/
def map? : List Char → Option (List Char)
  | [] => some []
  | c :: rest => do return (← mapChar? c) ++ (← map? rest)

/-- Whether a character of ASCII has a meaning in URLs, or is a blank or a control. -/
def isForbidden (c : Char) : Bool :=
  c.toNat ≤ 0x20 || c.toNat = 0x7F || "%#/:<>?@[\\]^|".toList.contains c

/-! ### Labels -/

/-- Whether a character joins with the one behind it or, if `before` is false, with the one in
front. -/
def joins (before : Bool) (c : Char) : Bool :=
  let types := if before then [['L'], ['D']] else [['R'], ['D']]
  types.contains (joiningTypeRuns.tag c)

/-- The first character that is not transparent for joining. -/
def firstJoining? (s : List Char) : Option Char :=
  s.find? fun c => joiningTypeRuns.tag c ≠ ['T']

/-- Whether a joiner has a place between the characters `before`, which are in reverse, and
`after`. -/
def isJoined (c : Char) (before after : List Char) : Bool :=
  let virama := match before with
    | b :: _ => combiningClass b = 9
    | [] => false
  virama || (c = '\u200c' && (firstJoining? before).any (joins true) &&
    (firstJoining? after).any (joins false))

/-- Whether every joiner of a label has its place; `before` is what was gone through, in reverse. -/
def joinersFit (before : List Char) : List Char → Bool
  | [] => true
  | c :: rest =>
    (if c = '\u200c' || c = '\u200d' then isJoined c before rest else true) &&
      joinersFit (c :: before) rest

/-- Whether a label may be part of a name: its characters stand for themselves, and one with
characters that are not ASCII is composed, does not start with a mark and has its joiners in their
places. -/
def isLabel (label : List Char) : Bool :=
  label.all (fun c => mapChar? c = some [c]) &&
    (label.all isAscii ||
      (compose label = label && !(label.head?.any markRuns.has) && joinersFit [] label))

/-- The start of labels in Punycode. -/
def punycodeMark : List Char := "xn--".toList

/-- The label that a label of a name stands for; `none` when it stands for none. -/
def decodeLabel? (label : List Char) : Option (List Char) :=
  match Text.after? punycodeMark label with
  | none => if isLabel label then some label else none
  | some code => do
    let decoded ← if code.all isAscii then Punycode.decode? code else none
    if decoded.all isAscii || !isLabel decoded then none
    else some decoded

/-- The form of a label in which it is looked up. -/
def encodeLabel (label : List Char) : List Char :=
  if label.all isAscii then label else punycodeMark ++ Punycode.encode label

/-! ### Directions -/

/-- The bidirectional class of a character. -/
def bidiClass (c : Char) : String :=
  String.ofList (bidiClassRuns.tag c)

/-- Whether a class makes a name bidirectional. -/
def isRightToLeft (bidi : String) : Bool :=
  ["R", "AL", "AN"].contains bidi

/-- Whether the classes of a label keep its direction, which the first of them gives: the classes
allowed inside and, marks apart, at the end depend on it, and numbers are of one kind. -/
def directionFits (classes : List String) : Bool :=
  let back := classes.reverse.dropWhile (· = "NSM")
  match classes.head? with
  | none => true
  | some "L" =>
    classes.all (["L", "EN", "ES", "CS", "ET", "ON", "BN", "NSM"].contains ·) &&
      back.head?.all (["L", "EN"].contains ·)
  | some first =>
    ["R", "AL"].contains first &&
      classes.all (["R", "AL", "AN", "EN", "ES", "CS", "ET", "ON", "BN", "NSM"].contains ·) &&
      back.head?.all (["R", "AL", "EN", "AN"].contains ·) &&
      !(classes.contains "EN" && classes.contains "AN")

/-- Whether no label of a name mixes directions. -/
def directionsFit (labels : List (List Char)) : Bool :=
  labels.all (·.all isAscii) ||
    (let classes := labels.map (·.map bidiClass)
    !(classes.any (·.any isRightToLeft)) || classes.all directionFits)

/-! ### Names -/

/-- The parts of a text between dots behind the unfinished part `pending`, which is in reverse. -/
def labelsFrom (pending : List Char) : List Char → List (List Char)
  | [] => [pending.reverse]
  | '.' :: rest => pending.reverse :: labelsFrom [] rest
  | c :: rest => labelsFrom (c :: pending) rest

/-- The labels of a name. -/
def labels (name : List Char) : List (List Char) :=
  labelsFrom [] name

/-- The name with the given labels. -/
def ofLabels (labels : List (List Char)) : List Char :=
  List.intercalate ['.'] labels

/-- The form of a name in which it is looked up; `none` when it is not a name. -/
def toAscii? (name : List Char) : Option (List Char) := do
  let mapped ← map? name
  let composed := compose mapped
  if composed.any isForbidden then none
  let decoded ← (labels composed).mapM decodeLabel?
  if decoded.any (·.any isForbidden) || !directionsFit decoded then none
  else some (ofLabels (decoded.map encodeLabel))

end FlowAudit.Idna
