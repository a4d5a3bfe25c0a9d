import FlashMarkup.Proofs.Document.Judgement
import FlashMarkup.Proofs.Document.Tree
import Mathlib.Data.List.Perm.Subperm

/-!
# Complete descriptions

A document can be described completely by a script: the number of its nodes and each of them, and of
an element its tag, the number of its attributes, each of them, and its children in the same way. The
script knows attributes only by their number and their names, and no positions; so it describes a
document up to these.
-/

namespace FlashMarkup

namespace Node

mutual

/-- The expectation that the child at an index is a node, with all that is inside it. -/
def described (index : Nat) : Node → Expectation
  | .text content _ => .text index content
  | .comment content _ => .comment index content
  | .element tag attributes children _ =>
    .element index
      (.tag tag :: .attributeCount attributes.size ::
        (attributes.entries.map fun entry => .attributeValue entry.1 entry.2) ++
        (.childCount children.length :: describedFrom 0 children).map .within)

/-- The expectations that the children from an index on are some nodes. -/
def describedFrom (index : Nat) : List Node → List Expectation
  | [] => []
  | node :: rest => described index node :: describedFrom (index + 1) rest

end

mutual

/-- Whether nodes are the same but for the positions in them and the order of attributes. -/
def Agrees : Node → Node → Prop
  | .element tag attributes children _, .element other others nodes _ =>
    tag = other ∧ attributes.entries.Perm others.entries ∧ AgreeAll children nodes
  | .text content _, .text other _ => content = other
  | .comment content _, .comment other _ => content = other
  | _, _ => False

/-- Whether there are as many nodes on both sides, each one agreeing with the one in its place. -/
def AgreeAll : List Node → List Node → Prop
  | [], [] => True
  | node :: rest, other :: others => Agrees node other ∧ AgreeAll rest others
  | _, _ => False

end

end Node

/-- The script that describes a document completely. -/
def Document.described (document : Document) : List Expectation :=
  .childCount document.children.length :: Node.describedFrom 0 document.children

/-- Whether documents are the same but for the positions in them and the order of attributes. -/
def Document.Agrees (document other : Document) : Prop :=
  Node.AgreeAll document.children other.children

/-- Attributes of which one has as many entries as the other, and among them all of the other, have the
    same entries in some order. -/
theorem Attributes.perm_iff (attributes others : Attributes) :
    attributes.entries.Perm others.entries ↔
      others.entries.length = attributes.entries.length ∧
        ∀ entry ∈ attributes.entries, entry ∈ others.entries := by
  constructor
  · intro perm
    exact ⟨perm.length_eq.symm, fun entry => perm.mem_iff.mp⟩
  · rintro ⟨sizes, among⟩
    have distinct : attributes.entries.Nodup := attributes.distinct.of_map Prod.fst
    exact (List.subperm_of_subset distinct among).perm_of_length_le (Nat.le_of_eq sizes)

namespace Expectation

/-- What expectations on an element state is what each of them states. -/
theorem elementStatementsAll_eq_flatMap (address : List Nat) (script : List ElementExpectation) :
    elementStatementsAll address script = script.flatMap (elementStatements address) := by
  induction script with
  | nil => rfl
  | cons expectation rest ih => rw [elementStatementsAll, ih, List.flatMap_cons]

/-- Expectations on the children of an element state what they state of any children. -/
theorem elementStatementsAll_within (address : List Nat) (script : List Expectation) :
    elementStatementsAll address (script.map .within) = statementsAll address script := by
  rw [elementStatementsAll_eq_flatMap, List.flatMap_map]
  rfl

variable {root focus : Focus} {address : List Nat} {index : Nat}

/-- The description of the head of an element holds of an element with the same tag and, in some order,
    the same attributes. -/
theorem holds_head {subject : Subject} (found : root.at? address = some (.ofSubject subject))
    (tag : Text) (attributes : Attributes) :
    (∀ addressed ∈ elementStatementsAll address (.tag tag :: .attributeCount attributes.size ::
        attributes.entries.map fun entry => .attributeValue entry.1 entry.2),
      addressed.Holds root) ↔
      tag = subject.tag ∧ attributes.entries.Perm subject.attributes.entries := by
  have listed : elementStatementsAll address (.tag tag :: .attributeCount attributes.size ::
      attributes.entries.map fun entry => .attributeValue entry.1 entry.2) =
      ⟨address, .tag tag⟩ :: ⟨address, .attributeCount attributes.size⟩ ::
        attributes.entries.map fun entry => ⟨address, .attributeValue entry.1 entry.2⟩ := by
    rw [elementStatementsAll_eq_flatMap, List.flatMap_cons, List.flatMap_cons, List.flatMap_map,
      List.map_eq_flatMap]
    rfl
  have tagged : (Focus.ofSubject subject).Satisfies (.tag tag) ↔ tag = subject.tag := by
    simp [Focus.Satisfies, Focus.ofSubject, eq_comm]
  have counted : (Focus.ofSubject subject).Satisfies (.attributeCount attributes.size) ↔
      subject.attributes.entries.length = attributes.entries.length := by
    simp [Focus.Satisfies, Focus.ofSubject, Attributes.size]
  have valued (name value : Text) :
      (Focus.ofSubject subject).Satisfies (.attributeValue name value) ↔
        (name, value) ∈ subject.attributes.entries := by
    simp [Focus.Satisfies, Focus.ofSubject]
  rw [listed, List.forall_mem_cons, List.forall_mem_cons, List.forall_mem_map, holds_iff found,
    holds_iff found, tagged, counted, Attributes.perm_iff]
  simp only [holds_iff found, valued]

/-- The description of several children holds of nodes that agree with them, if that of the first one
    and that of the others do. -/
theorem holds_describedFrom_cons {node : Node} {rest : List Node}
    (sizes : focus.children.length = index + (node :: rest).length)
    (first : ∀ other, focus.children[index]? = some other →
      ((∀ addressed ∈ statements address (node.described index), addressed.Holds root) ↔
        node.Agrees other))
    (later : focus.children.length = index + 1 + rest.length →
      ((∀ addressed ∈ statementsAll address (Node.describedFrom (index + 1) rest),
        addressed.Holds root) ↔ Node.AgreeAll rest (focus.children.drop (index + 1)))) :
    (∀ addressed ∈ statementsAll address (Node.describedFrom index (node :: rest)),
        addressed.Holds root) ↔ Node.AgreeAll (node :: rest) (focus.children.drop index) := by
  rw [List.length_cons] at sizes
  have inside : index < focus.children.length := by omega
  have child := List.getElem?_eq_getElem inside
  rw [List.drop_eq_getElem_cons inside, Node.AgreeAll, ← first _ child, ← later (by omega),
    Node.describedFrom, statementsAll, List.flatMap_cons, List.forall_mem_append]
  rfl

/-- Nodes that agree are as many on both sides. -/
theorem length_of_agreeAll {nodes others : List Node} (agree : Node.AgreeAll nodes others) :
    others.length = nodes.length := by
  induction nodes generalizing others with
  | nil => cases others with
    | nil => rfl
    | cons => contradiction
  | cons node rest ih => cases others with
    | nil => contradiction
    | cons other later => rw [List.length_cons, List.length_cons, ih agree.2]

/-- The description of all children holds of children that agree with them. -/
theorem holds_children (found : root.at? address = some focus) {nodes : List Node}
    (each : focus.children.length = 0 + nodes.length →
      ((∀ addressed ∈ statementsAll address (Node.describedFrom 0 nodes), addressed.Holds root) ↔
        Node.AgreeAll nodes (focus.children.drop 0))) :
    (∀ addressed ∈ statementsAll address
        (.childCount nodes.length :: Node.describedFrom 0 nodes), addressed.Holds root) ↔
      Node.AgreeAll nodes focus.children := by
  rw [List.drop_zero, Nat.zero_add] at each
  have counted := holds_iff found (.childCount nodes.length)
  have split : statementsAll address (.childCount nodes.length :: Node.describedFrom 0 nodes) =
      ⟨address, .childCount nodes.length⟩ ::
        statementsAll address (Node.describedFrom 0 nodes) := rfl
  rw [split, List.forall_mem_cons, counted]
  constructor
  · rintro ⟨sizes, holds⟩
    exact (each sizes).mp holds
  · intro agree
    have sizes := length_of_agreeAll agree
    exact ⟨sizes, (each sizes).mpr agree⟩

/-- The description of an element holds of an element with the same head and children that agree. -/
theorem holds_element (found : root.at? address = some focus) {tag : Text}
    {attributes : Attributes} {children : List Node} {position : Position} {other : Node}
    (child : focus.children[index]? = some other)
    (inside : ∀ below, root.at? (address ++ [index]) = some below →
      below.children.length = 0 + children.length →
      ((∀ addressed ∈ statementsAll (address ++ [index]) (Node.describedFrom 0 children),
        addressed.Holds root) ↔ Node.AgreeAll children (below.children.drop 0))) :
    (∀ addressed ∈ statements address
        ((Node.element tag attributes children position).described index),
      addressed.Holds root) ↔ (Node.element tag attributes children position).Agrees other := by
  have stated : statements address
      ((Node.element tag attributes children position).described index) =
      ⟨address, .element index⟩ ::
        (elementStatementsAll (address ++ [index])
          (.tag tag :: .attributeCount attributes.size ::
            attributes.entries.map fun entry => .attributeValue entry.1 entry.2) ++
          statementsAll (address ++ [index])
            (.childCount children.length :: Node.describedFrom 0 children)) := by
    rw [Node.described, statements, ← elementStatementsAll_within,
      elementStatementsAll_eq_flatMap, elementStatementsAll_eq_flatMap,
      elementStatementsAll_eq_flatMap, ← List.flatMap_append]
  rw [stated, List.forall_mem_cons, List.forall_mem_append, holds_iff found]
  cases other with
  | element name others nodes place =>
    let subject : Subject := ⟨childPlace focus.place index, name, others, nodes⟩
    have reached : root.at? (address ++ [index]) = some (.ofSubject subject) := by
      rw [at?_append, found, Option.bind_some, Focus.below, child]
      rfl
    rw [holds_head reached, holds_children reached (inside _ reached)]
    constructor
    · rintro ⟨-, ⟨tagged, perm⟩, agree⟩
      exact ⟨tagged, perm, agree⟩
    · rintro ⟨tagged, perm, agree⟩
      exact ⟨⟨name, others, nodes, place, child⟩, ⟨tagged, perm⟩, agree⟩
  | text content place =>
    refine iff_of_false ?_ (by simp [Node.Agrees])
    rintro ⟨⟨_, _, _, _, found⟩, -⟩
    cases child.symm.trans found
  | comment content place =>
    refine iff_of_false ?_ (by simp [Node.Agrees])
    rintro ⟨⟨_, _, _, _, found⟩, -⟩
    cases child.symm.trans found

/-- The description of the children from an index on holds of children that agree with them. -/
theorem holds_describedFrom (found : root.at? address = some focus) (nodes : List Node)
    (sizes : focus.children.length = index + nodes.length) :
    (∀ addressed ∈ statementsAll address (Node.describedFrom index nodes), addressed.Holds root) ↔
      Node.AgreeAll nodes (focus.children.drop index) := by
  induction nodes using Node.forest_induction generalizing address focus index with
  | nil =>
    rw [List.length_nil, Nat.add_zero] at sizes
    rw [List.drop_eq_nil_of_le (Nat.le_of_eq sizes)]
    simp [Node.describedFrom, statementsAll, Node.AgreeAll]
  | element tag attributes children position rest inside later =>
    refine holds_describedFrom_cons sizes (fun other child => ?_) (later found)
    exact holds_element found child fun below reached same => inside reached same
  | text content position rest later =>
    refine holds_describedFrom_cons sizes (fun other child => ?_) (later found)
    rw [Node.described, statements, List.forall_mem_singleton, holds_iff found, Focus.Satisfies,
      child]
    cases other <;> simp [Node.Agrees, eq_comm]
  | comment content position rest later =>
    refine holds_describedFrom_cons sizes (fun other child => ?_) (later found)
    rw [Node.described, statements, List.forall_mem_singleton, holds_iff found, Focus.Satisfies,
      child]
    cases other <;> simp [Node.Agrees, eq_comm]

end Expectation

open Expectation

/-- Scripts of expectations are sound and complete. A script goes through exactly if everything that it
    states is true of what it is stated about; otherwise it fails with the complaint about the first
    false statement, in the order in which the script states them. The complete description of a
    document goes through for the documents that are the same but for positions and the order of
    attributes, and for no others. -/
theorem Document.meets_judges (document : Document) (script : List Expectation) :
    (document.meets script = .ok () ↔
      ∀ stated ∈ statementsAll [] script, stated.Holds (.ofDocument document)) ∧
    (∀ message, document.meets script = .error message ↔
      ∃ before first after, statementsAll [] script = before ++ first :: after ∧
        (∀ stated ∈ before, stated.Holds (.ofDocument document)) ∧
        ¬ first.Holds (.ofDocument document) ∧
        first.complaint? (.ofDocument document) = some message) ∧
    ∀ other : Document, other.meets document.described = .ok () ↔ document.Agrees other := by
  refine ⟨meets_eq_ok_iff document script, fun message => ?_, fun other => ?_⟩
  · exact (meets_eq_iff document script _).trans (judged_error_iff _ message)
  · rw [meets_eq_ok_iff]
    have root : (Focus.ofDocument other).at? [] = some (.ofDocument other) := rfl
    exact holds_children root fun sizes => holds_describedFrom root document.children sizes

end FlashMarkup
