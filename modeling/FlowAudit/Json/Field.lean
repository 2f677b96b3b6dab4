import FlowAudit.Json
import FlowAudit.Number.Rounding

/-!
# Taking JSON values apart

Readers for the values of other types: texts, numbers of a given width, optional values, and records,
which are given either by the names of their fields or by their values in order.
-/

namespace FlowAudit.Json

/-- The text of a string. -/
def text? : Json → Option String
  | .string s => some s
  | _ => none

/-- A whole number of at most `bits` bits. -/
def unsigned? (bits : Nat) : Json → Option Nat
  | .number (.whole false n) => if n ≤ Text.maxOfBits bits then some n else none
  | _ => none

/-- The items of an array. -/
def items? : Json → Option (List Json)
  | .array items => some items
  | _ => none

/-- The value of a field that may be absent or null. -/
def optional? {α : Type} (decode : Json → Option α) : Option Json → Option (Option α)
  | none | some .null => some none
  | some value => (decode value).map some

/-- The number of members with a name. -/
def countName (name : String) (members : List (String × Json)) : Nat :=
  members.countP (·.1 = name)

/-- The values of the fields with the given names, in order. A record that is written as an object
may lack fields and have others, but no field twice; one that is written as an array has a value for
each field. -/
def fields? (names : List String) : Json → Option (List (Option Json))
  | .object members =>
    if names.all fun name => countName name members ≤ 1 then
      some (names.map fun name => members.lookup name)
    else
      none
  | .array items => if items.length = names.length then some (items.map some) else none
  | _ => none

/-- The name of a variant without content, which is written as a text or as an object with that name
for its only member. -/
def variant? : Json → Option String
  | .string name | .object [(name, .null)] => some name
  | _ => none

/-! ### Values that can be held back -/

/-- Whether a number is in the range of numbers with binary precision. -/
def Number.isInRange : Number → Bool
  | .whole _ n => FlowAudit.Number.isInRange n 0
  | .decimal _ mantissa exponent => FlowAudit.Number.isInRange mantissa exponent

/-- The deepest nesting of a value that is taken in as a whole. -/
def maxDepth : Nat := 127

mutual

/-- Whether a value can be taken in as a whole: all its strings are texts, its numbers are in range,
and it is nested at most `depth` deep. -/
def isPlain (depth : Nat) : Json → Bool
  | .null | .bool _ | .string _ => true
  | .number n => n.isInRange
  | .unpairedString => false
  | .array items => 0 < depth && arePlain (depth - 1) items
  | .object members => 0 < depth && areMembersPlain (depth - 1) members

/-- Whether all items of an array can be taken in. -/
def arePlain (depth : Nat) : List Json → Bool
  | [] => true
  | item :: rest => isPlain depth item && arePlain depth rest

/-- Whether the values of all members can be taken in. -/
def areMembersPlain (depth : Nat) : List (String × Json) → Bool
  | [] => true
  | (_, value) :: rest => isPlain depth value && areMembersPlain depth rest

end

end FlowAudit.Json
