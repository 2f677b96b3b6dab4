import FlowAudit.Text.Numeral

/-!
# Properties of characters in runs

A property of characters is given as a text of runs: the length of each run in base 36 and a tag for
its characters, which starts with a capital or is empty. The runs follow one another from number zero
on. `Runs.tag` looks a character up by halving.
-/

namespace FlowAudit.Unicode

/-- The runs of a property. -/
structure Runs where
  /-- The number of the first character of each run, in order. -/
  starts : Array Nat
  /-- The tag of each run. -/
  tags : Array (List Char)

namespace Runs

/-- The runs read so far, and the number of the next character. -/
structure Reading where
  next : Nat := 0
  starts : Array Nat := #[]
  tags : Array (List Char) := #[]

/-- Takes a run in. -/
def Reading.add (r : Reading) (word : List Char) : Reading :=
  let (length, tag) := word.span fun c => !c.isUpper
  ⟨r.next + (Text.ofDigits? 36 length).getD 0, r.starts.push r.next, r.tags.push tag⟩

/-- Reads runs set apart by blanks, behind the unfinished run `pending`, which is in reverse. -/
def Reading.addAll (r : Reading) (pending : List Char) : List Char → Reading
  | [] => r.add pending.reverse
  | ' ' :: rest => (r.add pending.reverse).addAll [] rest
  | c :: rest => r.addAll (c :: pending) rest

/-- The runs that the lines of a text give. -/
def parse (lines : List String) : Runs :=
  let r := lines.foldl (fun r line => r.addAll [] line.toList) ({} : Reading)
  ⟨r.starts, r.tags⟩

/-- The last run from `low` on and before `high` that does not start behind `n`, if `low` does
not. -/
def index (r : Runs) (n low high : Nat) : Nat :=
  if high ≤ low + 1 then low
  else
    let middle := (low + high) / 2
    if r.starts.getD middle 0 ≤ n then r.index n middle high else r.index n low middle
termination_by high - low

/-- The tag of the run that a character is in, and the place of the character in the run. -/
def find (r : Runs) (c : Char) : List Char × Nat :=
  let i := r.index c.toNat 0 r.starts.size
  (r.tags.getD i [], c.toNat - r.starts.getD i 0)

/-- The tag of the run that a character is in. -/
def tag (r : Runs) (c : Char) : List Char :=
  (r.find c).1

/-- Whether the run that a character is in has a tag. -/
def has (r : Runs) (c : Char) : Bool :=
  !(r.tag c).isEmpty

end Runs

/-- The numbers in a text that sets them apart by dots, behind the unfinished number `pending`, which
is in reverse. Numbers are in base 36. -/
def numbersFrom (pending : List Char) : List Char → List Nat
  | [] => [(Text.ofDigits? 36 pending.reverse).getD 0]
  | '.' :: rest => (Text.ofDigits? 36 pending.reverse).getD 0 :: numbersFrom [] rest
  | c :: rest => numbersFrom (c :: pending) rest

/-- The characters whose numbers a tag holds behind its letter. -/
def charsOfTag (tag : List Char) : List Char :=
  (numbersFrom [] (tag.drop 1)).map Char.ofNat

end FlowAudit.Unicode
