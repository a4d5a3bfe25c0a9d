import FlashMarkup.Document.Basic
import FlashMarkup.Token.Basic

/-!
# Views of a tree

Three ways of looking at a tree: how deep its elements lie inside one another, which nodes it has
in the order in which their written forms begin, and the token with which a node begins.
-/

namespace FlashMarkup

namespace Node

mutual

/-- How many elements contain one another at most in a tree. -/
def nesting : Node → Nat
  | .element _ _ children _ => 1 + nestings children
  | .text _ _ => 0
  | .comment _ _ => 0

/-- How many elements contain one another at most in several trees. -/
def nestings : List Node → Nat
  | [] => 0
  | node :: rest => max (nesting node) (nestings rest)

end

mutual

/-- The nodes of a tree, each in front of the nodes inside it. -/
def inOrder : Node → List Node
  | .element tag attributes children position =>
    .element tag attributes children position :: inOrders children
  | .text content position => [.text content position]
  | .comment content position => [.comment content position]

/-- The nodes of several trees, tree by tree. -/
def inOrders : List Node → List Node
  | [] => []
  | node :: rest => inOrder node ++ inOrders rest

end

/-- What holds of no nodes, and of nodes if it holds of those behind the first one and, where that is
    an element, of its children, holds of all nodes. -/
@[elab_as_elim]
theorem forest_induction {motive : List Node → Prop} (nil : motive [])
    (element : ∀ tag attributes children position rest, motive children → motive rest →
      motive (.element tag attributes children position :: rest))
    (text : ∀ content position rest, motive rest → motive (.text content position :: rest))
    (comment : ∀ content position rest, motive rest → motive (.comment content position :: rest))
    (nodes : List Node) : motive nodes := by
  match nodes with
  | [] => exact nil
  | node :: rest =>
    have later := forest_induction nil element text comment rest
    cases node with
    | element tag attributes children position =>
      have inside := forest_induction nil element text comment children
      exact element tag attributes children position rest inside later
    | text content position => exact text content position rest later
    | comment content position => exact comment content position rest later

/-- The token with which the written form of a node begins. -/
def opening : Node → Token
  | .element tag _ _ position => ⟨.tagOpen, tag, position⟩
  | .text content position => ⟨.text, content, position⟩
  | .comment content position => ⟨.comment, content, position⟩

/-- The elements of several trees are the nodes that begin with an opening tag. -/
theorem elementCounts_eq_countP (nodes : List Node) :
    elementCounts nodes = ((inOrders nodes).map opening).countP (·.kind == .tagOpen) := by
  induction nodes using forest_induction with
  | nil => rfl
  | element tag attributes children position rest inside later =>
    simp only [elementCounts, elementCount, inOrders, inOrder, opening, List.map_append,
      List.map_cons, List.countP_append, List.countP_cons, later, inside, beq_self_eq_true,
      if_true]
    omega
  | text content position rest later =>
    simp [elementCounts, elementCount, inOrders, inOrder, opening, later]
  | comment content position rest later =>
    simp [elementCounts, elementCount, inOrders, inOrder, opening, later]

/-- A tree has at most one level more than elements containing one another. -/
theorem depths_le_nestings (nodes : List Node) : depths nodes ≤ nestings nodes + 1 := by
  induction nodes using forest_induction with
  | nil => exact Nat.zero_le _
  | element tag attributes children position rest inside later =>
    simp only [depths, depth, nestings, nesting]
    omega
  | text content position rest later =>
    simp only [depths, depth, nestings, nesting]
    omega
  | comment content position rest later =>
    simp only [depths, depth, nestings, nesting]
    omega

end Node

/-- How many elements contain one another at most in a document. -/
def Document.nesting (document : Document) : Nat := Node.nestings document.children

/-- How many nodes of a document begin with a token of a kind. -/
def Document.count (document : Document) (kind : Token.Kind) : Nat :=
  ((Node.inOrders document.children).map Node.opening).countP (·.kind == kind)

end FlashMarkup
