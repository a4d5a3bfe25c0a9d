import FlashMarkup.Grammar.Validate
import FlashMarkup.Proofs.Document.Tree

/-!
# What validation looks at

Validation looks at elements only, and of an element at its tag, the names of its attributes and its
position. Inside an element with an unknown tag it looks at nothing. What is left of a document when
everything else is taken away is its skeleton, which is a document again.

A document and its skeleton are reported on alike, wherever a text or a comment stood between the
elements: the walk hands the tag of an element to all its children and nothing from one child to the
next. So two documents that differ only in what is taken away get the same diagnostics.
-/

namespace FlashMarkup

namespace Attributes

/-- The attributes with an empty value under every name. -/
def emptied (attributes : Attributes) : Attributes :=
  ⟨attributes.entries.map fun entry => (entry.1, []), by
    rw [List.map_map]
    exact attributes.distinct⟩

/-- Emptying the values keeps the names. -/
@[simp]
theorem names_emptied (attributes : Attributes) : attributes.emptied.names = attributes.names := by
  rw [names, emptied, List.map_map]
  rfl

/-- Emptying the values keeps which names there are. -/
@[simp]
theorem contains_emptied (attributes : Attributes) (name : Text) :
    attributes.emptied.contains name = attributes.contains name := by
  simp [contains, get?, emptied, List.find?_map, Function.comp_def]

end Attributes

namespace Node

mutual

/-- What is left of a node: nothing of a text or a comment, and of an element its tag, the names of
    its attributes, its position and, if the grammar knows its tag, what is left of its children. -/
def skeleton : Node → List Node
  | .element tag attributes children position =>
    [.element tag attributes.emptied
      (if Tag.ruleOf? tag = none then [] else skeletons children) position]
  | .text _ _ => []
  | .comment _ _ => []

/-- What is left of several nodes. -/
def skeletons : List Node → List Node
  | [] => []
  | node :: rest => skeleton node ++ skeletons rest

end

/-- The elements left have the tags of the elements that were there. -/
theorem tags_skeletons (nodes : List Node) :
    (skeletons nodes).filterMap tag? = nodes.filterMap tag? := by
  induction nodes with
  | nil => rfl
  | cons node rest ih =>
    rw [skeletons, List.filterMap_append, ih]
    cases node <;> rfl

/-- The violations of an element by itself do not depend on the values of its attributes. -/
theorem ownDiagnostics_emptied (rule : TagRule) (parent : Option Text) (tag : Text)
    (attributes : Attributes) (position : Position) :
    ownDiagnostics rule parent tag attributes.emptied position =
      ownDiagnostics rule parent tag attributes position := by
  simp [ownDiagnostics]

/-- The violations in several trees are those in what is left of them.

    Induct on the trees, for any parent. An element with an unknown tag is reported without a look
    at its children, so it does not matter that they are gone. -/
theorem diagnosticsOf_skeletons (parent : Option Text) (nodes : List Node) :
    diagnosticsOf parent (skeletons nodes) = diagnosticsOf parent nodes := by
  induction nodes using forest_induction generalizing parent with
  | nil => rfl
  | element tag attributes children position rest inside later =>
    rw [skeletons, skeleton, List.singleton_append, diagnosticsOf, diagnosticsOf, later parent]
    congr 1
    cases ruled : Tag.ruleOf? tag with
    | none => simp only [diagnostics, ruled]
    | some rule =>
      simp only [diagnostics, ruled, ownDiagnostics_emptied, reduceCtorEq, if_false, inside]
  | text content position rest later => exact later parent
  | comment content position rest later => exact later parent

end Node

namespace Document

/-- The document without texts and comments, without the values of attributes, and without anything
    inside elements whose tag the grammar does not know. -/
def skeleton (document : Document) : Document := ⟨Node.skeletons document.children⟩

/-- A document is reported on like its skeleton. -/
theorem validate_skeleton (document : Document) :
    document.skeleton.validate = document.validate := by
  have root : document.skeleton.hasRoot = document.hasRoot :=
    congrArg (fun tags : List Text => tags.contains Tag.root.name)
      (Node.tags_skeletons document.children)
  have below : Node.diagnosticsOf none document.skeleton.children =
      Node.diagnosticsOf none document.children :=
    Node.diagnosticsOf_skeletons none document.children
  rw [validate, validate, root, below]

/-- Two documents with the same skeleton get the same diagnostics, in the same order, each with the
    same violation and position. -/
theorem validate_of_same_skeleton {first second : Document}
    (same : first.skeleton = second.skeleton) : first.validate = second.validate := by
  rw [← validate_skeleton first, same, validate_skeleton second]

/-- A scene that lacks its root, with an unknown element inside. -/
def bareScene : Document :=
  ⟨[.element "escena" .empty
    [.element "imagen" (.ofList [("src", "a.png"), ("size", "1")]) [] ⟨1, 9⟩,
      .element "capitan" .empty [] ⟨2, 1⟩] ⟨1, 1⟩]⟩

/-- The scene with texts, a comment and other values, and with children of the unknown element. -/
def filledScene : Document :=
  ⟨[.text "Prologue" ⟨1, 1⟩,
    .element "escena" .empty
      [.comment "no alt" ⟨1, 5⟩,
        .element "imagen" (.ofList [("src", "b.png"), ("size", [])]) [.text "x" ⟨1, 20⟩] ⟨1, 9⟩,
        .text "then" ⟨1, 30⟩,
        .element "capitan" .empty [.element "velocista" .empty [] ⟨2, 10⟩, .text "y" ⟨2, 20⟩] ⟨2, 1⟩]
      ⟨1, 1⟩]⟩

/-- Both scenes get the same five diagnostics. -/
theorem validate_of_same_skeleton_scenes :
    bareScene.skeleton = filledScene.skeleton ∧ bareScene.validate = filledScene.validate ∧
      bareScene.validate.length = 5 := by
  have same : bareScene.skeleton = filledScene.skeleton := rfl
  exact ⟨same, validate_of_same_skeleton same, by decide⟩

end Document

end FlashMarkup
