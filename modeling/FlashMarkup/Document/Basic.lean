import FlashMarkup.Document.Attributes
import FlashMarkup.Position.Basic

/-!
# Documents

A document is a list of nodes. A node is an element with a tag name, attributes and children, or
a piece of text, or a comment. Every node carries the position at which its written form starts.
-/

namespace FlashMarkup

/-- An element, a text or a comment, with the position of its written form. -/
inductive Node where
  | element (tag : Text) (attributes : Attributes) (children : List Node) (position : Position)
  | text (content : Text) (position : Position)
  | comment (content : Text) (position : Position)

namespace Node

mutual

/-- Whether two nodes are the same is found by comparing their parts. -/
def decideEq : (node other : Node) → Decidable (node = other)
  | .element tag attributes children position, .element name others nodes place =>
    have : Decidable (children = nodes) := decideEqs children nodes
    decidable_of_iff
      (tag = name ∧ attributes = others ∧ children = nodes ∧ position = place) (by simp)
  | .text content position, .text other place =>
    decidable_of_iff (content = other ∧ position = place) (by simp)
  | .comment content position, .comment other place =>
    decidable_of_iff (content = other ∧ position = place) (by simp)
  | .element _ _ _ _, .text _ _ | .element _ _ _ _, .comment _ _ | .text _ _, .element _ _ _ _
  | .text _ _, .comment _ _ | .comment _ _, .element _ _ _ _ | .comment _ _, .text _ _ =>
    isFalse (by simp)

/-- Whether two lists of nodes are the same is found node by node. -/
def decideEqs : (nodes others : List Node) → Decidable (nodes = others)
  | [], [] => isTrue rfl
  | node :: rest, other :: others =>
    have : Decidable (node = other) := decideEq node other
    have : Decidable (rest = others) := decideEqs rest others
    decidable_of_iff (node = other ∧ rest = others) (by simp)
  | [], _ :: _ | _ :: _, [] => isFalse (by simp)

end

instance : DecidableEq Node := decideEq

end Node

/-- The top-level nodes of a source. -/
structure Document where
  children : List Node
deriving DecidableEq

instance : Inhabited Node := ⟨.text [] .start⟩

instance : Inhabited Document := ⟨⟨[]⟩⟩

namespace Node

/-- Where the written form of the node starts. -/
def position : Node → Position
  | .element _ _ _ position => position
  | .text _ position => position
  | .comment _ position => position

/-- The tag name of an element. -/
def tag? : Node → Option Text
  | .element tag _ _ _ => some tag
  | _ => none

/-- Whether the node is an element. -/
def isElement (node : Node) : Bool := node.tag?.isSome

mutual

/-- The number of nodes of a tree, its root included. -/
def nodeCount : Node → Nat
  | .element _ _ children _ => 1 + nodeCounts children
  | .text _ _ => 1
  | .comment _ _ => 1

/-- The number of nodes of several trees. -/
def nodeCounts : List Node → Nat
  | [] => 0
  | node :: rest => nodeCount node + nodeCounts rest

end

mutual

/-- The number of elements of a tree. -/
def elementCount : Node → Nat
  | .element _ _ children _ => 1 + elementCounts children
  | .text _ _ => 0
  | .comment _ _ => 0

/-- The number of elements of several trees. -/
def elementCounts : List Node → Nat
  | [] => 0
  | node :: rest => elementCount node + elementCounts rest

end

mutual

/-- The number of levels of a tree, its root included. -/
def depth : Node → Nat
  | .element _ _ children _ => 1 + depths children
  | .text _ _ => 1
  | .comment _ _ => 1

/-- The number of levels of the highest of several trees. -/
def depths : List Node → Nat
  | [] => 0
  | node :: rest => max (depth node) (depths rest)

end

end Node

namespace Document

/-- The number of nodes, the document itself included. -/
def nodeCount (document : Document) : Nat := 1 + Node.nodeCounts document.children

/-- The number of elements. -/
def elementCount (document : Document) : Nat := Node.elementCounts document.children

/-- The number of levels, the document itself included. -/
def depth (document : Document) : Nat := 1 + Node.depths document.children

/-- The tag names of the top-level elements, in order. -/
def topTags (document : Document) : List Text := document.children.filterMap Node.tag?

end Document

end FlashMarkup
