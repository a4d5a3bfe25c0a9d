import FlashMarkup.Compile.Basic
import FlashMarkup.Proofs.Document.Hierarchy
import FlashMarkup.Proofs.Text.Lines
import Mathlib.Data.List.Basic

/-!
# The lines of a drawing

An outline is drawn as a caption for its root and a line for each entry below, in document order. In
front of the caption of an entry stand a connector, which says whether the entry is the last of its
siblings, and two characters for each entry around it, which say the same of that one.

A label is cut before it is drawn, but it is drawn as it is. So a line break near its beginning is a
line break of the drawing, and one line per node is what a drawing has exactly where no label
has a line break among the characters that are drawn.
-/

namespace FlashMarkup

namespace Hierarchy

/-- What is at a place below the root, and where the place hangs: whether each place around it, the
    outermost first and without the root, is the last of its siblings, and whether it is so
    itself. -/
structure Branch (α : Type) where
  entry : α
  around : List Bool
  isLast : Bool

variable {α : Type}

/-- How far below the root a branch hangs. -/
def Branch.depth (branch : Branch α) : Nat := branch.around.length + 1

mutual

/-- The branches at a place and below it. -/
def branchesAt (around : List Bool) (isLast : Bool) : Hierarchy α → List (Branch α)
  | .place root below => ⟨root, around, isLast⟩ :: branchesBelow (around ++ [isLast]) below

/-- The branches at sibling places and below them. -/
def branchesBelow (around : List Bool) : List (Hierarchy α) → List (Branch α)
  | [] => []
  | first :: rest => branchesAt around rest.isEmpty first ++ branchesBelow around rest

end

/-- Branches hang in document order, one for each place. -/
theorem map_entry_branchesBelow (around : List Bool) (forest : List (Hierarchy α)) :
    (branchesBelow around forest).map Branch.entry = inOrders forest := by
  induction forest using forest_induction generalizing around with
  | nil => rfl
  | place root below rest inside later =>
    simp [branchesBelow, branchesAt, inOrders, inOrder, inside, later]

end Hierarchy

namespace Outline

open Hierarchy (Branch branchesAt branchesBelow)

/-- What is drawn of an entry: its kind and its label, cut. -/
structure Caption where
  kind : Kind
  shown : Text
deriving DecidableEq, Repr

namespace Caption

/-- What is drawn of an entry of a kind with a label. -/
def of (kind : Kind) (label : Text) : Caption := ⟨kind, label.truncate labelWidth⟩

/-- What is drawn of an entry. Its position is not. -/
def ofEntry (kind : Kind) (label : Text) (_position : Position) : Caption := of kind label

/-- What is drawn of a node. -/
def ofNode (node : Node) : Caption := of (kindOf node) (labelOf node)

/-- The text of a caption. -/
def text (caption : Caption) : Text := caption.kind.icon ++ " " ++ caption.shown

end Caption

/-- What stands below an entry, two characters wide, in front of the entries inside it. -/
def column (isLast : Bool) : Text := (if isLast then "  " else "│ " : String)

/-- What connects an entry with its siblings. -/
def connector (isLast : Bool) : Text := (if isLast then "└─" else "├─" : String)

/-- The line of an entry: a column for each entry around it, its connector and its caption. -/
def branchLine (branch : Branch Caption) : Text :=
  branch.around.flatMap column ++ connector branch.isLast ++ " " ++ branch.entry.text

/-- The lines of a hierarchy of captions: the caption of the root and a line for each place below. -/
def linesOf : Hierarchy Caption → List Text
  | .place root below => root.text :: (branchesBelow [] below).map branchLine

/-- What is drawn of an outline. -/
def captions : Outline → Hierarchy Caption := hierarchy Caption.ofEntry

/-- An entry is drawn as its line, with the entries below it and then its siblings behind it. -/
theorem entriesBefore_cons (around : List Bool) (after : Text) (kind : Kind) (label : Text)
    (position : Position) (children rest : List Outline) :
    entriesBefore (around.flatMap column) after (.entry kind label position children :: rest) =
      Text.line (branchLine ⟨.of kind label, around, rest.isEmpty⟩) ++
        entriesBefore ((around ++ [rest.isEmpty]).flatMap column)
          (entriesBefore (around.flatMap column) after rest) children := by
  have deeper : (around ++ [rest.isEmpty]).flatMap column =
      around.flatMap column ++ column rest.isEmpty := by
    simp
  rw [deeper, entriesBefore, entryBefore]
  simp [Text.line, branchLine, connector, column, caption, Caption.of, Caption.text]

/-- The entries below an outline, drawn behind their columns, are the lines of their branches.

    Recurse on the entries. The columns grow by the one of the entry whose children are drawn. -/
theorem entriesBefore_eq_unlines (around : List Bool) (after : Text) (outlines : List Outline) :
    entriesBefore (around.flatMap column) after outlines =
      Text.unlines ((branchesBelow around (hierarchies Caption.ofEntry outlines)).map branchLine) ++
        after := by
  match outlines with
  | [] => rfl
  | .entry kind label position children :: rest =>
    have inside := entriesBefore_eq_unlines (around ++ [rest.isEmpty])
      (entriesBefore (around.flatMap column) after rest) children
    have later := entriesBefore_eq_unlines around after rest
    rw [entriesBefore_cons, inside, later, hierarchies, hierarchy, branchesBelow, branchesAt,
      isEmpty_hierarchies]
    simp [Text.unlines, Caption.ofEntry]

/-- A drawing is written line by line. -/
theorem draw_eq_unlines (outline : Outline) :
    outline.draw = Text.unlines (linesOf outline.captions) := by
  obtain ⟨kind, label, position, children⟩ := outline
  have below : entriesBefore [] [] children = _ := entriesBefore_eq_unlines [] [] children
  rw [draw, below]
  simp [linesOf, captions, hierarchy, Text.unlines, Text.line, caption, Caption.ofEntry, Caption.of,
    Caption.text]

/-- A label that is cut has the line breaks among the characters that are left. -/
theorem count_truncate (width : Nat) (label : Text) :
    (label.truncate width).count '\n' = (label.take width).count '\n' := by
  rw [Text.truncate]
  split
  next =>
    rw [List.count_append]
    rfl
  next short => rw [List.take_of_length_le (by omega)]

/-- A caption has the line breaks of what it shows. -/
theorem count_text (caption : Caption) : caption.text.count '\n' = caption.shown.count '\n' := by
  have icon : caption.kind.icon.count '\n' = 0 := by cases caption.kind <;> decide
  have space : ((" " : String) : Text).count '\n' = 0 := by decide
  rw [Caption.text, List.count_append, List.count_append, icon, space, Nat.zero_add]

/-- The line of a branch has the line breaks of its caption. -/
theorem count_branchLine (branch : Branch Caption) :
    (branchLine branch).count '\n' = branch.entry.shown.count '\n' := by
  have columns : (branch.around.flatMap column).count '\n' = 0 := by
    rw [List.count_eq_zero]
    intro member
    obtain ⟨isLast, -, inside⟩ := List.mem_flatMap.mp member
    cases isLast <;> exact absurd inside (by decide)
  have connected : (connector branch.isLast).count '\n' = 0 := by cases branch.isLast <;> decide
  have space : ((" " : String) : Text).count '\n' = 0 := by decide
  rw [branchLine, List.count_append, List.count_append, List.count_append, columns, connected,
    space, count_text]
  simp only [Nat.zero_add]

/-- What is shown of the label of a document has no line break. -/
theorem count_documentLabel (document : Document) :
    (Caption.of .document (documentLabel document)).shown.count '\n' = 0 := by
  have digits : '\n' ∉ Text.decimal document.children.length := by
    intro member
    have digit : '\n'.isDigit = true :=
      Nat.isDigit_of_mem_toDigits (by decide) (by decide) member
    contradiction
  have front : '\n' ∉ (("Document (" : String) : Text) := by decide
  have back : '\n' ∉ ((" items)" : String) : Text) := by decide
  rw [Caption.of, count_truncate, List.count_eq_zero]
  intro member
  rcases List.mem_append.mp (List.mem_of_mem_take member) with inside | items
  · rcases List.mem_append.mp inside with label | number
    · exact front label
    · exact digits number
  · exact back items

end Outline

namespace Document

open Outline (Caption)

/-- What is drawn of a document. -/
def captions (document : Document) : Hierarchy Caption :=
  document.hierarchy (.of .document (Outline.documentLabel document)) Caption.ofNode

/-- The branches of a document, one for each of its nodes. -/
def branches (document : Document) : List (Hierarchy.Branch Caption) :=
  Hierarchy.branchesBelow [] (Node.hierarchies Caption.ofNode document.children)

/-- Whether no label has a line break among the characters that are drawn. -/
def Unbroken (document : Document) : Prop :=
  ∀ node ∈ Node.inOrders document.children,
    '\n' ∉ (Outline.labelOf node).take Outline.labelWidth

instance (document : Document) : Decidable document.Unbroken :=
  List.decidableBAll (fun node => '\n' ∉ (Outline.labelOf node).take Outline.labelWidth) _

/-- The lines of a document are the one of its root and those of its branches. -/
theorem linesOf_captions (document : Document) :
    Outline.linesOf document.captions =
      (Caption.of .document (Outline.documentLabel document)).text ::
        document.branches.map Outline.branchLine :=
  rfl

/-- What is drawn of the outline of a document is drawn of the document. -/
theorem captions_ofDocument (document : Document) :
    (Outline.ofDocument document).captions = document.captions :=
  Outline.hierarchy_ofDocument Caption.ofEntry document

/-- The branches hold the nodes in document order. -/
theorem map_entry_branches (document : Document) :
    document.branches.map (·.entry) = (Node.inOrders document.children).map Caption.ofNode := by
  rw [branches, Hierarchy.map_entry_branchesBelow, Node.inOrders_hierarchies]

/-- There is a line for each node. -/
theorem length_linesOf_captions (document : Document) :
    (Outline.linesOf document.captions).length = document.nodeCount := by
  have hung := congrArg List.length document.map_entry_branches
  rw [List.length_map, List.length_map, ← Node.nodeCounts_eq_length] at hung
  rw [linesOf_captions, List.length_cons, List.length_map, hung, nodeCount, Nat.add_comm]

/-- The line breaks inside the lines are those of the labels that are drawn. -/
theorem map_count_linesOf_captions (document : Document) :
    (Outline.linesOf document.captions).map (·.count '\n') =
      0 :: (Node.inOrders document.children).map fun node =>
        ((Outline.labelOf node).take Outline.labelWidth).count '\n' := by
  have drawn : document.branches.map (fun branch => (Outline.branchLine branch).count '\n') =
      (document.branches.map (·.entry)).map (·.shown.count '\n') := by
    rw [List.map_map]
    exact List.map_congr_left fun branch _ => Outline.count_branchLine branch
  rw [linesOf_captions, List.map_cons, Outline.count_text, Outline.count_documentLabel,
    List.map_map, Function.comp_def, drawn, map_entry_branches, List.map_map]
  refine congrArg _ (List.map_congr_left fun node _ => ?_)
  exact Outline.count_truncate Outline.labelWidth (Outline.labelOf node)

/-- No line of a document is broken exactly if no label is broken where it is drawn. -/
theorem unbroken_iff (document : Document) :
    (∀ line ∈ Outline.linesOf document.captions, '\n' ∉ line) ↔ document.Unbroken := by
  have counted := document.map_count_linesOf_captions
  have lines : (∀ line ∈ Outline.linesOf document.captions, '\n' ∉ line) ↔
      ∀ count ∈ (Outline.linesOf document.captions).map (·.count '\n'), count = 0 := by
    simp only [List.forall_mem_map, List.count_eq_zero]
  rw [lines, counted, List.forall_mem_cons, List.forall_mem_map]
  simp only [List.count_eq_zero, true_and]
  rfl

/-- A drawing shows the document and its nodes in document order, one behind the other and each
    ended by a line break: first the caption of the document, and then for each node the line of the
    branch that holds it. A line break among the characters of a label that are drawn is one more
    line break of the drawing. So the lines of the drawing are those of the nodes, one line per
    node, exactly if no label is broken there. -/
theorem drawing_lines (document : Document) :
    let drawing := (Outline.ofDocument document).draw
    let lines := (Caption.of .document (Outline.documentLabel document)).text ::
      document.branches.map Outline.branchLine
    drawing = Text.unlines lines ∧ lines.length = document.nodeCount ∧
      document.branches.map (·.entry) = (Node.inOrders document.children).map Caption.ofNode ∧
      drawing.count '\n' = document.nodeCount + ((Node.inOrders document.children).map fun node =>
        ((Outline.labelOf node).take Outline.labelWidth).count '\n').sum ∧
      (pieces '\n' drawing = lines ++ [[]] ↔ document.Unbroken) := by
  intro drawing lines
  have written : drawing = Text.unlines lines := by
    have drawn := (Outline.ofDocument document).draw_eq_unlines
    rwa [captions_ofDocument, linesOf_captions] at drawn
  have length : lines.length = document.nodeCount := document.length_linesOf_captions
  refine ⟨written, length, document.map_entry_branches, ?_, ?_⟩
  · have breaks := document.map_count_linesOf_captions
    rw [linesOf_captions] at breaks
    rw [written, Text.count_unlines, length, breaks, List.sum_cons, Nat.zero_add]
  · rw [written, Text.pieces_unlines_iff]
    exact document.unbroken_iff

/-- A source with a line break in its text. -/
def brokenSource : Text := "@titulo@Hi\nthere@/titulo@"

/-- The tree of the source with a line break in its text. -/
def brokenDocument : Document :=
  ⟨[.element ("titulo" : String) .empty [.text ("Hi\nthere" : String) ⟨1, 9⟩] ⟨1, 1⟩]⟩

/-- The drawing of a source that is parsed can have more lines than there are nodes. -/
theorem drawing_lines_broken :
    ¬ ∀ source document, parse source = .ok document →
      (Outline.ofDocument document).draw.count '\n' = document.nodeCount := by
  intro oneEach
  have parsed : parse brokenSource = .ok brokenDocument := by decide +kernel
  have counted := oneEach brokenSource brokenDocument parsed
  exact absurd counted (by decide)

end Document

end FlashMarkup
