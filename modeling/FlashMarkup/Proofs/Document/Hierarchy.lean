import FlashMarkup.Document.Outline
import FlashMarkup.Document.Record
import FlashMarkup.Proofs.Document.Tree

/-!
# The hierarchy of a document

A document, its record and its outline are trees of three types, each with functions of its own that
walk through it, count its nodes and measure its depth. What they share is a hierarchy: something at
each place, such as the kind of what stands there, and hierarchies below it in order.

The record and the outline of a document have the hierarchy of the document, the outline with all
positions. Every count is a count of places in a hierarchy, so the counts agree as well.
-/

namespace FlashMarkup

/-- Something at a place, and the hierarchies below it, in order. -/
inductive Hierarchy (α : Type) where
  | place (root : α) (below : List (Hierarchy α))

namespace Hierarchy

variable {α : Type}

mutual

/-- What is at the places of a hierarchy, each place in front of those below it. -/
def inOrder : Hierarchy α → List α
  | .place root below => root :: inOrders below

/-- What is at the places of several hierarchies, one after the other. -/
def inOrders : List (Hierarchy α) → List α
  | [] => []
  | first :: rest => inOrder first ++ inOrders rest

end

mutual

/-- The number of levels of a hierarchy. -/
def height : Hierarchy α → Nat
  | .place _ below => 1 + heights below

/-- The number of levels of the highest of several hierarchies. -/
def heights : List (Hierarchy α) → Nat
  | [] => 0
  | first :: rest => max (height first) (heights rest)

end

/-- What holds of no hierarchies, and of hierarchies if it holds of those below the first one and of
    those behind it, holds of all hierarchies. -/
@[elab_as_elim]
theorem forest_induction {motive : List (Hierarchy α) → Prop} (nil : motive [])
    (place : ∀ root below rest, motive below → motive rest → motive (.place root below :: rest))
    (forest : List (Hierarchy α)) : motive forest := by
  match forest with
  | [] => exact nil
  | .place root below :: rest =>
    have inside := forest_induction nil place below
    have later := forest_induction nil place rest
    exact place root below rest inside later

/-- Each level of hierarchies takes a place. -/
theorem heights_le_length (forest : List (Hierarchy α)) :
    heights forest ≤ (inOrders forest).length := by
  induction forest using forest_induction with
  | nil => exact Nat.le_refl 0
  | place root below rest inside later =>
    simp only [heights, height, inOrders, inOrder, List.length_append, List.length_cons]
    omega

end Hierarchy

variable {α : Type}

namespace Node

mutual

/-- The hierarchy of a node, with what is seen of each node in its place. -/
def hierarchy (view : Node → α) : Node → Hierarchy α
  | .element tag attributes children position =>
    .place (view (.element tag attributes children position)) (hierarchies view children)
  | .text content position => .place (view (.text content position)) []
  | .comment content position => .place (view (.comment content position)) []

/-- The hierarchies of several nodes. -/
def hierarchies (view : Node → α) : List Node → List (Hierarchy α)
  | [] => []
  | node :: rest => hierarchy view node :: hierarchies view rest

end

/-- There is a hierarchy for each node. -/
theorem isEmpty_hierarchies (view : Node → α) (nodes : List Node) :
    (hierarchies view nodes).isEmpty = nodes.isEmpty := by
  cases nodes <;> rfl

/-- A hierarchy shows the nodes in document order. -/
theorem inOrders_hierarchies (view : Node → α) (nodes : List Node) :
    Hierarchy.inOrders (hierarchies view nodes) = (inOrders nodes).map view := by
  induction nodes using forest_induction with
  | nil => rfl
  | element tag attributes children position rest inside later =>
    simp [hierarchies, hierarchy, Hierarchy.inOrders, Hierarchy.inOrder, inOrders, inOrder, inside,
      later]
  | text content position rest later =>
    simp [hierarchies, hierarchy, Hierarchy.inOrders, Hierarchy.inOrder, inOrders, inOrder, later]
  | comment content position rest later =>
    simp [hierarchies, hierarchy, Hierarchy.inOrders, Hierarchy.inOrder, inOrders, inOrder, later]

/-- A hierarchy has as many levels as the nodes. -/
theorem heights_hierarchies (view : Node → α) (nodes : List Node) :
    Hierarchy.heights (hierarchies view nodes) = depths nodes := by
  induction nodes using forest_induction with
  | nil => rfl
  | element tag attributes children position rest inside later =>
    simp only [hierarchies, hierarchy, Hierarchy.heights, Hierarchy.height, depths, depth, inside,
      later]
  | text content position rest later =>
    simp [hierarchies, hierarchy, Hierarchy.heights, Hierarchy.height, depths, depth, later]
  | comment content position rest later =>
    simp [hierarchies, hierarchy, Hierarchy.heights, Hierarchy.height, depths, depth, later]

/-- The nodes of several trees are counted one by one. -/
theorem nodeCounts_eq_length (nodes : List Node) : nodeCounts nodes = (inOrders nodes).length := by
  induction nodes using forest_induction with
  | nil => rfl
  | element tag attributes children position rest inside later =>
    simp only [nodeCounts, nodeCount, inOrders, inOrder, List.length_append, List.length_cons,
      inside, later]
    omega
  | text content position rest later =>
    simp [nodeCounts, nodeCount, inOrders, inOrder, later, Nat.add_comm]
  | comment content position rest later =>
    simp [nodeCounts, nodeCount, inOrders, inOrder, later, Nat.add_comm]

/-- The elements of several trees are counted one by one. -/
theorem elementCounts_eq_count (nodes : List Node) :
    elementCounts nodes = ((inOrders nodes).map Outline.kindOf).count .element := by
  induction nodes using forest_induction with
  | nil => rfl
  | element tag attributes children position rest inside later =>
    simp only [elementCounts, elementCount, inOrders, inOrder, List.map_append, List.map_cons,
      List.count_append, Outline.kindOf, List.count_cons_self, inside, later]
    omega
  | text content position rest later =>
    simpa [elementCounts, elementCount, inOrders, inOrder, Outline.kindOf] using later
  | comment content position rest later =>
    simpa [elementCounts, elementCount, inOrders, inOrder, Outline.kindOf] using later

end Node

namespace Document

/-- The hierarchy of a document, with its root and what is seen of each node below it. -/
def hierarchy (root : α) (view : Node → α) (document : Document) : Hierarchy α :=
  .place root (Node.hierarchies view document.children)

variable (root : α) (view : Node → α) (document : Document)

/-- The hierarchy of a document shows its root and its nodes in document order. -/
theorem inOrder_hierarchy :
    (document.hierarchy root view).inOrder =
      root :: (Node.inOrders document.children).map view := by
  rw [hierarchy, Hierarchy.inOrder, Node.inOrders_hierarchies]

/-- The hierarchy of a document has a place for each node. -/
theorem length_inOrder_hierarchy :
    (document.hierarchy root view).inOrder.length = document.nodeCount := by
  rw [inOrder_hierarchy, List.length_cons, List.length_map, ← Node.nodeCounts_eq_length,
    nodeCount, Nat.add_comm]

/-- The hierarchy of a document has as many levels as the document. -/
theorem height_hierarchy : (document.hierarchy root view).height = document.depth := by
  rw [hierarchy, Hierarchy.height, Node.heights_hierarchies, depth]

end Document

namespace Record

mutual

/-- The hierarchy of a record, with the kind of each record. -/
def hierarchy : Record → Hierarchy Outline.Kind
  | .document children => .place .document (hierarchies children)
  | .element _ _ children => .place .element (hierarchies children)
  | .text _ => .place .text []
  | .comment _ => .place .comment []

/-- The hierarchies of several records. -/
def hierarchies : List Record → List (Hierarchy Outline.Kind)
  | [] => []
  | record :: rest => hierarchy record :: hierarchies rest

end

/-- The records of nodes have the hierarchies of the nodes. -/
theorem hierarchies_ofNodes (nodes : List Node) :
    hierarchies (ofNodes nodes) = Node.hierarchies Outline.kindOf nodes := by
  induction nodes using Node.forest_induction with
  | nil => rfl
  | element tag attributes children position rest inside later =>
    simp only [ofNodes, ofNode, hierarchies, hierarchy, Node.hierarchies, Node.hierarchy, inside,
      later, Outline.kindOf]
  | text content position rest later =>
    simp only [ofNodes, ofNode, hierarchies, hierarchy, Node.hierarchies, Node.hierarchy, later,
      Outline.kindOf]
  | comment content position rest later =>
    simp only [ofNodes, ofNode, hierarchies, hierarchy, Node.hierarchies, Node.hierarchy, later,
      Outline.kindOf]

/-- The record of a document has the hierarchy of the document. -/
theorem hierarchy_ofDocument (document : Document) :
    (ofDocument document).hierarchy = document.hierarchy .document Outline.kindOf := by
  rw [ofDocument, hierarchy, hierarchies_ofNodes, Document.hierarchy]

mutual

/-- The records of a tree are counted one by one. -/
theorem nodeCount_eq_length (record : Record) :
    record.nodeCount = record.hierarchy.inOrder.length := by
  match record with
  | .document children =>
    have inside := nodeCounts_eq_length children
    simp only [nodeCount, hierarchy, Hierarchy.inOrder, List.length_cons, inside]
    omega
  | .element tag attributes children =>
    have inside := nodeCounts_eq_length children
    simp only [nodeCount, hierarchy, Hierarchy.inOrder, List.length_cons, inside]
    omega
  | .text content => rfl
  | .comment content => rfl

/-- The records of several trees are counted one by one. -/
theorem nodeCounts_eq_length (records : List Record) :
    nodeCounts records = (Hierarchy.inOrders (hierarchies records)).length := by
  match records with
  | [] => rfl
  | record :: rest =>
    have first := nodeCount_eq_length record
    have later := nodeCounts_eq_length rest
    simp only [nodeCounts, hierarchies, Hierarchy.inOrders, List.length_append, first, later]

end

mutual

/-- A record has as many levels as its hierarchy. -/
theorem depth_eq_height (record : Record) : record.depth = record.hierarchy.height := by
  match record with
  | .document children => exact congrArg (1 + ·) (depths_eq_heights children)
  | .element tag attributes children => exact congrArg (1 + ·) (depths_eq_heights children)
  | .text content => rfl
  | .comment content => rfl

/-- The highest of several records has as many levels as the highest of their hierarchies. -/
theorem depths_eq_heights (records : List Record) :
    depths records = Hierarchy.heights (hierarchies records) := by
  match records with
  | [] => rfl
  | record :: rest =>
    have first := depth_eq_height record
    have later := depths_eq_heights rest
    simp only [depths, hierarchies, Hierarchy.heights, first, later]

end

end Record

namespace Outline

mutual

/-- The hierarchy of an outline, with what is seen of each entry. -/
def hierarchy (view : Kind → Text → Position → α) : Outline → Hierarchy α
  | .entry kind label position children =>
    .place (view kind label position) (hierarchies view children)

/-- The hierarchies of several outlines. -/
def hierarchies (view : Kind → Text → Position → α) : List Outline → List (Hierarchy α)
  | [] => []
  | outline :: rest => hierarchy view outline :: hierarchies view rest

end

/-- There is a hierarchy for each outline. -/
theorem isEmpty_hierarchies (view : Kind → Text → Position → α) (outlines : List Outline) :
    (hierarchies view outlines).isEmpty = outlines.isEmpty := by
  cases outlines <;> rfl

/-- The outlines of nodes have the hierarchies of the nodes. -/
theorem hierarchies_ofNodes (view : Kind → Text → Position → α) (nodes : List Node) :
    hierarchies view (ofNodes nodes) =
      Node.hierarchies (fun node => view (kindOf node) (labelOf node) node.position) nodes := by
  induction nodes using Node.forest_induction with
  | nil => rfl
  | element tag attributes children position rest inside later =>
    simp only [ofNodes, ofNode, hierarchies, hierarchy, Node.hierarchies, Node.hierarchy, inside,
      later, kindOf, Node.position]
  | text content position rest later =>
    simp only [ofNodes, ofNode, hierarchies, hierarchy, Node.hierarchies, Node.hierarchy, later,
      kindOf, Node.position]
  | comment content position rest later =>
    simp only [ofNodes, ofNode, hierarchies, hierarchy, Node.hierarchies, Node.hierarchy, later,
      kindOf, Node.position]

/-- The outline of a document has the hierarchy of the document. -/
theorem hierarchy_ofDocument (view : Kind → Text → Position → α) (document : Document) :
    (ofDocument document).hierarchy view =
      document.hierarchy (view .document (documentLabel document) .start)
        (fun node => view (kindOf node) (labelOf node) node.position) := by
  rw [ofDocument, hierarchy, hierarchies_ofNodes, Document.hierarchy]

end Outline

/-- The record and the outline of a document are the document node for node: they have its hierarchy
    of kinds, and the outline has each position in its place. So the record has as many nodes and
    levels as the document, the outline has as many nodes, and as many records are elements as nodes
    of the document are. The document itself is no element, and there are no more levels than
    nodes. -/
theorem Document.derived_trees_agree (document : Document) :
    let record := Record.ofDocument document
    let entries := (Outline.ofDocument document).hierarchy fun kind _ position => (kind, position)
    record.hierarchy = document.hierarchy .document Outline.kindOf ∧
      entries = document.hierarchy (.document, .start)
        (fun node => (Outline.kindOf node, node.position)) ∧
      record.nodeCount = document.nodeCount ∧ record.depth = document.depth ∧
      entries.inOrder.length = document.nodeCount ∧
      record.hierarchy.inOrder.count .element = document.elementCount ∧
      document.elementCount ≤ document.nodeCount - 1 ∧ document.depth ≤ document.nodeCount := by
  intro record entries
  have kinds : record.hierarchy = document.hierarchy .document Outline.kindOf :=
    Record.hierarchy_ofDocument document
  have placed : entries = document.hierarchy (.document, .start)
      (fun node => (Outline.kindOf node, node.position)) :=
    Outline.hierarchy_ofDocument _ document
  have elements : record.hierarchy.inOrder.count .element = document.elementCount := by
    rw [kinds, inOrder_hierarchy, List.count_cons_of_ne (by decide),
      ← Node.elementCounts_eq_count, elementCount]
  refine ⟨kinds, placed, ?_, ?_, ?_, elements, ?_, ?_⟩
  · rw [Record.nodeCount_eq_length, kinds, length_inOrder_hierarchy]
  · rw [Record.depth_eq_height, kinds, height_hierarchy]
  · rw [placed, length_inOrder_hierarchy]
  · have fewer := List.count_le_length (a := Outline.Kind.element)
      (l := (Node.inOrders document.children).map Outline.kindOf)
    rw [← Node.elementCounts_eq_count, List.length_map, ← Node.nodeCounts_eq_length] at fewer
    simp only [elementCount, nodeCount]
    omega
  · have fewer := Hierarchy.heights_le_length (Node.hierarchies id document.children)
    rw [Node.heights_hierarchies, Node.inOrders_hierarchies, List.length_map,
      ← Node.nodeCounts_eq_length] at fewer
    simp only [depth, nodeCount]
    omega

end FlashMarkup
