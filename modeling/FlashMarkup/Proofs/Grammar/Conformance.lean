import FlashMarkup.Grammar.Validate
import Mathlib.Data.List.Nodup

/-!
# What validation reports

Validation walks through a tree with the tag of the parent in hand and leaves out what stands inside
an element with an unknown tag. Here the elements of a document are listed first, each with the
tags of all elements around it, and what is wrong with an element is said of that element alone. An
element is checked if no element around it has an unknown tag.

Validation reports what is wrong with the checked elements, element by element in document order.
An element that is left out stands inside one that is reported, so that nothing is reported only
where every element conforms to the grammar, the ones left out included.
-/

namespace FlashMarkup

/-- Whether an element may stand inside the named element, or at document level if there is no name:
    its rule restricts nothing, or it lists the element around. -/
def TagRule.Admits (rule : TagRule) (parent : Option Text) : Prop :=
  ∀ parents ∈ rule.parents, ∃ name ∈ parent, name ∈ parents.map Tag.name

/-- A rule allows the parents it admits. -/
theorem TagRule.allowsParent_iff (rule : TagRule) (parent : Option Text) :
    rule.allowsParent parent = true ↔ rule.Admits parent := by
  obtain ⟨parents, required, optional⟩ := rule
  cases parents with
  | none => simp [allowsParent, Admits]
  | some parents => cases parent <;> simp [allowsParent, Admits]

instance (rule : TagRule) (parent : Option Text) : Decidable (rule.Admits parent) :=
  decidable_of_iff _ (rule.allowsParent_iff parent)

/-- Attributes contain the names they list. -/
theorem Attributes.contains_iff (attributes : Attributes) (name : Text) :
    attributes.contains name = true ↔ name ∈ attributes.names := by
  simp [contains, get?, names]

/-- No rule requires an attribute twice. -/
theorem Tag.nodup_required {written : Text} {rule : TagRule}
    (ruled : Tag.ruleOf? written = some rule) : rule.required.Nodup := by
  obtain ⟨tag, -, rfl⟩ := Option.map_eq_some_iff.mp ruled
  cases tag <;> decide

/-- An element of a document where it stands, with the tags of the elements around it, the
    innermost first. -/
structure Occurrence where
  ancestors : List Text
  tag : Text
  attributes : Attributes
  position : Position

namespace Occurrence

/-- Whether the grammar knows the tags of all elements around an element. -/
def Checked (element : Occurrence) : Prop := ∀ tag ∈ element.ancestors, Tag.ruleOf? tag ≠ none

instance (element : Occurrence) : Decidable element.Checked :=
  List.decidableBAll (fun tag => Tag.ruleOf? tag ≠ none) element.ancestors

/-- The tag of the element directly around an element; none at document level. -/
def parent? (element : Occurrence) : Option Text := element.ancestors.head?

/-- What is wrong with an element by itself: only its tag if the grammar does not know it, else first
    where it stands, then the required attributes it lacks in the order of its rule, then the
    attributes that its rule does not list in written order. -/
def violations (element : Occurrence) : List Violation :=
  match Tag.ruleOf? element.tag with
  | none => [.unknownTag element.tag]
  | some rule =>
    (if rule.Admits element.parent? then []
      else [.disallowedParent element.tag element.parent?]) ++
    ((rule.required.filter (!element.attributes.names.contains ·)).map
      (.missingAttribute element.tag) ++
    (element.attributes.names.filter fun name =>
      !rule.required.contains name && !rule.optional.contains name).map
      (.disallowedAttribute element.tag))

/-- What is reported about an element: its violations, each with its position. -/
def block (element : Occurrence) : List Diagnostic :=
  element.violations.map fun violation => ⟨violation, some element.position⟩

/-- Whether an element agrees with the grammar: its tag has a rule, which lets it stand where it
    stands, requires no attribute that it lacks and lists every attribute that it has. -/
def Conforms (element : Occurrence) : Prop :=
  ∃ rule, Tag.ruleOf? element.tag = some rule ∧ rule.Admits element.parent? ∧
    (∀ name ∈ rule.required, name ∈ element.attributes.names) ∧
    ∀ name ∈ element.attributes.names, name ∈ rule.required ∨ name ∈ rule.optional

/-- Nothing is reported about an element exactly if it conforms. -/
theorem block_eq_nil_iff (element : Occurrence) : element.block = [] ↔ element.Conforms := by
  rw [block, List.map_eq_nil_iff, violations, Conforms]
  cases Tag.ruleOf? element.tag with
  | none => simp
  | some rule =>
    simp only [List.append_eq_nil_iff, List.map_eq_nil_iff, List.filter_eq_nil_iff,
      ite_eq_left_iff, List.cons_ne_nil, imp_false, not_not, Bool.not_eq_true', Bool.and_eq_true,
      Bool.not_eq_false, List.contains_iff_mem, Option.some.injEq, exists_eq_left', not_and_or]

/-- No violation is reported twice of the same element. -/
theorem nodup_block (element : Occurrence) : element.block.Nodup := by
  have positioned : Function.Injective
      fun violation : Violation => (⟨violation, some element.position⟩ : Diagnostic) := by
    intro first second same
    exact congrArg Diagnostic.violation same
  refine List.Nodup.map positioned ?_
  unfold violations
  split
  next => exact List.nodup_singleton _
  next rule ruled =>
    have missing : ((rule.required.filter (!element.attributes.names.contains ·)).map
        (Violation.missingAttribute element.tag)).Nodup :=
      ((Tag.nodup_required ruled).filter _).map fun first second same => by simpa using same
    have disallowed : ((element.attributes.names.filter fun name =>
        !rule.required.contains name && !rule.optional.contains name).map
        (Violation.disallowedAttribute element.tag)).Nodup :=
      (element.attributes.distinct.filter _).map fun first second same => by simpa using same
    refine List.nodup_append.mpr ⟨by split <;> simp, List.nodup_append.mpr ⟨missing, disallowed, ?_⟩,
      ?_⟩
    · intro first firstMember second secondMember
      obtain ⟨_, -, rfl⟩ := List.mem_map.mp firstMember
      obtain ⟨_, -, rfl⟩ := List.mem_map.mp secondMember
      simp
    · intro first firstMember second secondMember
      have misplaced : first = .disallowedParent element.tag element.parent? := by
        split at firstMember
        next => contradiction
        next => exact List.mem_singleton.mp firstMember
      rcases List.mem_append.mp secondMember with member | member
      · obtain ⟨_, -, rfl⟩ := List.mem_map.mp member
        simp [misplaced]
      · obtain ⟨_, -, rfl⟩ := List.mem_map.mp member
        simp [misplaced]

end Occurrence

namespace Node

mutual

/-- The elements of a tree, each in front of the elements inside it. `ancestors` are the tags of the
    elements around the tree. -/
def occurrences (ancestors : List Text) : Node → List Occurrence
  | .element tag attributes children position =>
    ⟨ancestors, tag, attributes, position⟩ :: occurrencesOf (tag :: ancestors) children
  | .text _ _ => []
  | .comment _ _ => []

/-- The elements of several trees, tree by tree. -/
def occurrencesOf (ancestors : List Text) : List Node → List Occurrence
  | [] => []
  | node :: rest => occurrences ancestors node ++ occurrencesOf ancestors rest

end

/-- The elements around several trees are around each element in them. -/
theorem ancestors_suffix (ancestors : List Text) (nodes : List Node) :
    ∀ element ∈ occurrencesOf ancestors nodes, ancestors <:+ element.ancestors := by
  intro element member
  match nodes with
  | [] => contradiction
  | node :: rest =>
    rcases List.mem_append.mp member with first | later
    · cases node with
      | element tag attributes children position =>
        rcases List.mem_cons.mp first with rfl | inside
        · exact List.suffix_rfl
        · exact (List.suffix_cons tag ancestors).trans
            (ancestors_suffix (tag :: ancestors) children element inside)
      | text => contradiction
      | comment => contradiction
    · exact ancestors_suffix ancestors rest element later

/-- Nothing inside an element with an unknown tag is checked. -/
theorem filter_checked_of_unknown {tag : Text} (unknown : Tag.ruleOf? tag = none)
    (ancestors : List Text) (nodes : List Node) :
    (occurrencesOf (tag :: ancestors) nodes).filter (·.Checked) = [] := by
  rw [List.filter_eq_nil_iff]
  intro element member checked
  have around : tag ∈ element.ancestors :=
    (ancestors_suffix (tag :: ancestors) nodes element member).subset List.mem_cons_self
  exact of_decide_eq_true checked tag around unknown

/-- The violations of an element with a known tag are what is wrong with it by itself. -/
theorem ownDiagnostics_eq_block (ancestors : List Text) {tag : Text} {rule : TagRule}
    (ruled : Tag.ruleOf? tag = some rule) (attributes : Attributes) (position : Position) :
    ownDiagnostics rule ancestors.head? tag attributes position =
      (⟨ancestors, tag, attributes, position⟩ : Occurrence).block := by
  have lacks : (fun name => !attributes.contains name) =
      fun name => !attributes.names.contains name := by
    funext name
    rw [Bool.not_inj_iff, Bool.eq_iff_iff, Attributes.contains_iff, List.contains_iff_mem]
  have unlisted : (fun name => !rule.allowsAttribute name) =
      fun name => !rule.required.contains name && !rule.optional.contains name := by
    funext name
    rw [TagRule.allowsAttribute, Bool.not_or]
  simp only [ownDiagnostics, Occurrence.block, Occurrence.violations, ruled, lacks, unlisted,
    Occurrence.parent?, TagRule.allowsParent_iff, List.map_append, List.map_map, Function.comp_def,
    List.append_assoc]
  by_cases admitted : rule.Admits ancestors.head? <;> simp [admitted]

/-- The violations in several trees inside elements with known tags are those of the checked
    elements in them, in document order.

    Induct on the trees. Where the walk stops at an unknown tag, no element below is checked. -/
theorem diagnosticsOf_eq_blocks (ancestors : List Text)
    (known : ∀ tag ∈ ancestors, Tag.ruleOf? tag ≠ none) (nodes : List Node) :
    diagnosticsOf ancestors.head? nodes =
      ((occurrencesOf ancestors nodes).filter (·.Checked)).flatMap Occurrence.block := by
  match nodes with
  | [] => rfl
  | node :: rest =>
    have later := diagnosticsOf_eq_blocks ancestors known rest
    rw [diagnosticsOf, occurrencesOf, List.filter_append, List.flatMap_append, ← later]
    congr 1
    cases node with
    | text => rfl
    | comment => rfl
    | element tag attributes children position =>
      let here : Occurrence := ⟨ancestors, tag, attributes, position⟩
      have checked : decide here.Checked = true := decide_eq_true known
      rw [diagnostics.eq_def, occurrences, List.filter_cons, if_pos checked, List.flatMap_cons]
      dsimp only
      split
      next unknown =>
        rw [filter_checked_of_unknown unknown, Occurrence.block, Occurrence.violations]
        simp only [unknown, List.map_cons, List.map_nil, List.flatMap_nil, List.append_nil]
      next rule ruled =>
        have inside : ∀ other ∈ tag :: ancestors, Tag.ruleOf? other ≠ none := by
          simpa [ruled] using known
        rw [ownDiagnostics_eq_block ancestors ruled]
        exact congrArg (here.block ++ ·) (diagnosticsOf_eq_blocks (tag :: ancestors) inside children)

/-- Where every checked element has a known tag, every element is checked. -/
theorem checked_of_known (ancestors : List Text)
    (known : ∀ tag ∈ ancestors, Tag.ruleOf? tag ≠ none) (nodes : List Node)
    (ruled : ∀ element ∈ occurrencesOf ancestors nodes,
      element.Checked → Tag.ruleOf? element.tag ≠ none) :
    ∀ element ∈ occurrencesOf ancestors nodes, element.Checked := by
  match nodes with
  | [] =>
    intro element member
    contradiction
  | node :: rest =>
    obtain ⟨ruledFirst, ruledLater⟩ := List.forall_mem_append.mp ruled
    refine List.forall_mem_append.mpr ⟨?_, checked_of_known ancestors known rest ruledLater⟩
    cases node with
    | text =>
      intro element member
      contradiction
    | comment =>
      intro element member
      contradiction
    | element tag attributes children position =>
      obtain ⟨ruledHere, ruledInside⟩ := List.forall_mem_cons.mp ruledFirst
      have inside : ∀ other ∈ tag :: ancestors, Tag.ruleOf? other ≠ none :=
        List.forall_mem_cons.mpr ⟨ruledHere known, known⟩
      exact List.forall_mem_cons.mpr
        ⟨known, checked_of_known (tag :: ancestors) inside children ruledInside⟩

end Node

namespace Document

/-- The elements of a document, each in front of the elements inside it. -/
def occurrences (document : Document) : List Occurrence :=
  Node.occurrencesOf [] document.children

/-- Whether some top-level element has the tag that documents have to have. -/
theorem hasRoot_iff (document : Document) :
    document.hasRoot = true ↔
      ∃ node ∈ document.children, node.tag? = some Tag.velocista.name := by
  simp [hasRoot, topTags, Tag.root]

/-- If all checked elements conform, all elements do: an element that is not checked would stand
    inside a checked one with an unknown tag. -/
theorem conforms_of_checked {document : Document}
    (conform : ∀ element ∈ document.occurrences, element.Checked → element.Conforms) :
    ∀ element ∈ document.occurrences, element.Conforms := by
  have ruled : ∀ element ∈ document.occurrences,
      element.Checked → Tag.ruleOf? element.tag ≠ none := by
    intro element member checked
    obtain ⟨rule, ruled, -⟩ := conform element member checked
    simp [ruled]
  have checked := Node.checked_of_known [] (by simp) document.children ruled
  intro element member
  exact conform element member (checked element member)

/-- Where nothing is reported, all elements conform. -/
theorem conforms_of_validate {document : Document} (valid : document.validate = []) :
    ∀ element ∈ document.occurrences, element.Conforms := by
  have below := Node.diagnosticsOf_eq_blocks [] (by simp) document.children
  rw [List.head?_nil, (List.append_eq_nil_iff.mp valid).2, eq_comm, List.flatMap_eq_nil_iff] at below
  apply conforms_of_checked
  intro element member checked
  have listed : element ∈ document.occurrences.filter (·.Checked) :=
    List.mem_filter.mpr ⟨member, decide_eq_true checked⟩
  exact element.block_eq_nil_iff.mp (below element listed)

/-- Validation reports that the root is missing if it is, and then what is wrong with each checked
    element, in document order and without repeating itself. It reports nothing exactly if there is
    a root and every element of the document conforms to the grammar. -/
theorem validate_eq_blocks (document : Document) :
    document.validate =
        (if ∃ node ∈ document.children, node.tag? = some Tag.velocista.name then []
          else [⟨.missingRoot Tag.velocista.name, none⟩]) ++
        (document.occurrences.filter (·.Checked)).flatMap Occurrence.block ∧
      (∀ element ∈ document.occurrences, element.block.Nodup) ∧
      (document.validate = [] ↔
        (∃ node ∈ document.children, node.tag? = some Tag.velocista.name) ∧
          ∀ element ∈ document.occurrences, element.Conforms) := by
  have blocks : document.validate =
      (if ∃ node ∈ document.children, node.tag? = some Tag.velocista.name then []
        else [⟨.missingRoot Tag.velocista.name, none⟩]) ++
      (document.occurrences.filter (·.Checked)).flatMap Occurrence.block := by
    have below := Node.diagnosticsOf_eq_blocks [] (by simp) document.children
    rw [List.head?_nil] at below
    rw [validate, below]
    simp only [hasRoot_iff]
    rfl
  refine ⟨blocks, fun element _ => element.nodup_block, ?_⟩
  rw [blocks, List.append_eq_nil_iff, List.flatMap_eq_nil_iff, ite_eq_left_iff]
  simp only [List.cons_ne_nil, imp_false, not_not, List.mem_filter, decide_eq_true_eq,
    Occurrence.block_eq_nil_iff]
  refine and_congr_right fun _ => ⟨?_, ?_⟩
  · intro conform
    exact conforms_of_checked fun element member checked => conform element ⟨member, checked⟩
  · intro conform element member
    exact conform element member.1

end Document

end FlashMarkup
