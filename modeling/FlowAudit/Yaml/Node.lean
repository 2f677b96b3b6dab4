import FlowAudit.Yaml.Token

/-!
# Nodes of YAML

A document is a tree of nodes. An alias stands for a node with an anchor, which may be any node of the
document, even one around the alias; aliases are therefore kept as they are, and
`Document.target?` finds what one stands for.
-/

namespace FlowAudit.Yaml

/-- A node. A tag that is absent leaves it to the reader of the node what it is. -/
inductive Node where
  | scalar (tag : Option String) (style : ScalarStyle) (text : String)
  | sequence (tag : Option String) (items : List Node)
  | mapping (tag : Option String) (members : List (Node × Node))
  /-- An alias of the node with the given number. -/
  | reference (anchor : Nat)
  deriving Repr, Inhabited

/-- The node that stands where there is none. -/
def Node.empty : Node :=
  .scalar none .plain ""

/-- A node with an anchor. -/
structure Anchored where
  /-- The number of its anchor. -/
  anchor : Nat
  /-- How many starts and ends of nodes are in front of it. -/
  position : Nat
  node : Node
  deriving Repr, Inhabited

/-- A document. -/
structure Document where
  /-- The node that the document is; none for a text without document. -/
  root : Option Node
  anchored : List Anchored
  /-- The number of starts and ends of nodes. -/
  size : Nat
  deriving Repr, Inhabited

/-- The later of two nodes. -/
def Anchored.later (best : Option Anchored) (a : Anchored) : Option Anchored :=
  match best with
  | some b => if b.position ≤ a.position then some a else some b
  | none => some a

/-- What an alias stands for: the last node whose anchor has the number. -/
def Document.target? (d : Document) (anchor : Nat) : Option Node :=
  ((d.anchored.filter (·.anchor = anchor)).foldl Anchored.later none).map (·.node)

end FlowAudit.Yaml
