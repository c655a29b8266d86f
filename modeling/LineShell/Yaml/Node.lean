import LineShell.Yaml.Token

/-!
# Documents

A document is a tree of scalars, sequences and mappings.  A node may carry an anchor, and an alias
elsewhere stands for the node with that anchor; an alias inside the node that it stands for makes
the document endless, so aliases stay in the tree and are followed when a node is looked at.
-/

namespace LineShell.Yaml

/-- A node of a document.  Anchors are numbers here. -/
inductive Node
  | alias (target : Nat)
  | scalar (anchor : Option Nat) (tag : Option TagText) (style : Style) (text : String)
  | sequence (anchor : Option Nat) (items : List Node)
  | mapping (anchor : Option Nat) (entries : List (Node × Node))

namespace Node

/-- The plain scalar without text, which stands for what is left out. -/
def empty : Node := .scalar none none .plain ""

/-- The node with the nodes below it that carry an anchor, in the order of the text. -/
def anchored : Node → List (Nat × Node)
  | .alias _ => []
  | .scalar anchor tag style text =>
    (anchor.map (·, Node.scalar anchor tag style text)).toList
  | .sequence anchor items =>
    (anchor.map (·, Node.sequence anchor items)).toList ++ anchoredItems items
  | .mapping anchor entries =>
    (anchor.map (·, Node.mapping anchor entries)).toList ++ anchoredEntries entries
where
  /-- The anchored nodes in a list. -/
  anchoredItems : List Node → List (Nat × Node)
    | [] => []
    | node :: rest => node.anchored ++ anchoredItems rest
  /-- The anchored nodes in keys and values. -/
  anchoredEntries : List (Node × Node) → List (Nat × Node)
    | [] => []
    | (key, value) :: rest => key.anchored ++ value.anchored ++ anchoredEntries rest

end Node

/-- A document: its root, and the nodes with anchors. -/
structure Document where
  root : Node
  /-- The nodes with anchors, the last of the text first. -/
  anchors : List (Nat × Node)

namespace Document

/-- The document with a root. -/
def ofRoot (root : Node) : Document := ⟨root, root.anchored.reverse⟩

/-- The node itself, or the one that it is an alias of. -/
def follow (document : Document) : Node → Node
  | .alias target => (document.anchors.lookup target).getD (.alias target)
  | node => node

end Document

end LineShell.Yaml
