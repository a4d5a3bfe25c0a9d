import FlashMarkup.Proofs.Document.Drawing
import Mathlib.Data.List.Forall2

/-!
# What a drawing tells

The two characters in front of a connector are a column, and no column is a connector. So a line is
read from its beginning, two characters at a time, up to its connector, whatever its label holds.

The lines give the places of a hierarchy in document order, each with its depth. That is enough to
hang them again: from the last place to the first one, each takes what is deeper right behind it. So
a drawing whose lines are not broken gives back all that is drawn of its document.
-/

namespace FlashMarkup

namespace Hierarchy

variable {α : Type}

/-- Hierarchies with the depths of their roots, from branches in document order. A branch takes the
    hierarchies behind it up to the first one that is not deeper. -/
def rebuild : List (Branch α) → List (Nat × Hierarchy α)
  | [] => []
  | branch :: rest =>
    let inside := (rebuild rest).takeWhile fun later => branch.depth < later.1
    (branch.depth, .place branch.entry (inside.map Prod.snd)) ::
      (rebuild rest).dropWhile fun later => branch.depth < later.1

/-- Whether no hierarchy right in front is deeper than a depth. -/
def Shallow (depth : Nat) (placed : List (Nat × Hierarchy α)) : Prop :=
  ∀ first ∈ placed.head?, first.1 ≤ depth

/-- What is not deeper than a depth is not deeper than one below. -/
theorem Shallow.mono {depth below : Nat} {placed : List (Nat × Hierarchy α)}
    (shallow : Shallow depth placed) (deeper : depth ≤ below) : Shallow below placed :=
  fun first member => Nat.le_trans (shallow first member) deeper

/-- Hierarchies at a depth are not deeper, and neither is what stands behind them. -/
theorem shallow_append {depth : Nat} {placed : List (Nat × Hierarchy α)}
    (shallow : Shallow depth placed) (forest : List (Hierarchy α)) :
    Shallow depth (forest.map (depth, ·) ++ placed) := by
  cases forest with
  | nil => exact shallow
  | cons hierarchy rest =>
    intro first member
    have same : (depth, hierarchy) = first := Option.some.inj member
    exact Nat.le_of_eq (congrArg Prod.fst same.symm)

/-- A branch in front of hierarchies that are one level deeper, and then of others that are not
    deeper, takes the former. -/
theorem rebuild_cons {branch : Branch α} {rest : List (Branch α)} {below : List (Hierarchy α)}
    {placed : List (Nat × Hierarchy α)} (shallow : Shallow branch.depth placed)
    (behind : rebuild rest = below.map (branch.depth + 1, ·) ++ placed) :
    rebuild (branch :: rest) = (branch.depth, .place branch.entry below) :: placed := by
  have deeper : ∀ later ∈ below.map (branch.depth + 1, ·),
      decide (branch.depth < later.1) = true := by
    intro later member
    obtain ⟨hierarchy, -, rfl⟩ := List.mem_map.mp member
    exact decide_eq_true (Nat.lt_succ_self _)
  have stops : placed.takeWhile (fun later => branch.depth < later.1) = [] ∧
      placed.dropWhile (fun later => branch.depth < later.1) = placed := by
    cases placed with
    | nil => exact ⟨rfl, rfl⟩
    | cons first others =>
      have level : ¬ branch.depth < first.1 := Nat.not_lt.mpr (shallow first rfl)
      simp [level]
  rw [rebuild, behind, List.takeWhile_append_of_pos deeper, List.dropWhile_append_of_pos deeper,
    stops.1, stops.2, List.append_nil, List.map_map]
  simp [Function.comp_def]

/-- The branches of hierarchies, with others behind them that are not deeper, hang as they did.

    What hangs below the first place is one level deeper than its siblings, and these are not deeper
    than the place. So the place takes all that hung below it and stops at its siblings. -/
theorem rebuild_branchesBelow (around : List Bool) (forest : List (Hierarchy α))
    {rest : List (Branch α)} (shallow : Shallow (around.length + 1) (rebuild rest)) :
    rebuild (branchesBelow around forest ++ rest) =
      forest.map (around.length + 1, ·) ++ rebuild rest := by
  induction forest using forest_induction generalizing around rest with
  | nil => rfl
  | place root below siblings inside later =>
    have next := later around shallow
    have level := shallow_append shallow siblings
    have deeper : (around ++ [siblings.isEmpty]).length = around.length + 1 := by simp
    have behind : Shallow ((around ++ [siblings.isEmpty]).length + 1)
        (rebuild (branchesBelow around siblings ++ rest)) := by
      rw [next, deeper]
      exact level.mono (Nat.le_succ _)
    have below := inside (around ++ [siblings.isEmpty]) behind
    rw [next, deeper] at below
    rw [branchesBelow, branchesAt, List.append_assoc, List.cons_append]
    exact rebuild_cons level below

end Hierarchy

namespace Outline

open Hierarchy (Branch branchesBelow rebuild)

/-- The kind with a symbol. -/
def Kind.ofIcon? (symbol : Char) : Option Kind :=
  [Kind.document, .element, .text, .comment].find? fun kind => kind.icon = [symbol]

/-- The caption that is written in a text. -/
def Caption.read? : Text → Option Caption
  | symbol :: ' ' :: shown => (Kind.ofIcon? symbol).map (⟨·, shown⟩)
  | _ => none

/-- A caption is read as it is written. -/
theorem Caption.read_text (caption : Caption) : Caption.read? caption.text = some caption := by
  obtain ⟨kind, shown⟩ := caption
  cases kind <;> rfl

/-- The branch that is written in a line. -/
def readBranch? : Text → Option (Branch Caption)
  | '└' :: '─' :: ' ' :: caption => (Caption.read? caption).map (⟨·, [], true⟩)
  | '├' :: '─' :: ' ' :: caption => (Caption.read? caption).map (⟨·, [], false⟩)
  | ' ' :: ' ' :: rest =>
    (readBranch? rest).map fun branch => { branch with around := true :: branch.around }
  | '│' :: ' ' :: rest =>
    (readBranch? rest).map fun branch => { branch with around := false :: branch.around }
  | _ => none

/-- A branch is read as it is written. -/
theorem readBranch_branchLine (branch : Branch Caption) :
    readBranch? (branchLine branch) = some branch := by
  obtain ⟨entry, around, isLast⟩ := branch
  induction around with
  | nil =>
    have shown := Caption.read_text entry
    cases isLast with
    | true =>
      have line : branchLine ⟨entry, [], true⟩ = '└' :: '─' :: ' ' :: entry.text := by
        simp [branchLine, connector]
      rw [line, readBranch?, shown]
      rfl
    | false =>
      have line : branchLine ⟨entry, [], false⟩ = '├' :: '─' :: ' ' :: entry.text := by
        simp [branchLine, connector]
      rw [line, readBranch?, shown]
      rfl
  | cons outermost around ih =>
    cases outermost with
    | true =>
      have line : branchLine ⟨entry, true :: around, isLast⟩ =
          ' ' :: ' ' :: branchLine ⟨entry, around, isLast⟩ := rfl
      rw [line, readBranch?, ih]
      rfl
    | false =>
      have line : branchLine ⟨entry, false :: around, isLast⟩ =
          '│' :: ' ' :: branchLine ⟨entry, around, isLast⟩ := rfl
      rw [line, readBranch?, ih]
      rfl

/-- What is drawn in the lines of a drawing. -/
def readLines? : List Text → Option (Hierarchy Caption)
  | [] => none
  | first :: rest => do
    let root ← Caption.read? first
    let branches ← rest.mapM readBranch?
    return .place root ((rebuild branches).map Prod.snd)

/-- Branches are read as they are written. -/
theorem mapM_readBranch (branches : List (Branch Caption)) :
    (branches.map branchLine).mapM readBranch? = some branches := by
  induction branches with
  | nil => rfl
  | cons branch rest ih => simp [readBranch_branchLine, ih]

/-- A hierarchy is read as it is drawn. -/
theorem readLines_linesOf (drawn : Hierarchy Caption) :
    readLines? (linesOf drawn) = some drawn := by
  obtain ⟨root, below⟩ := drawn
  have shallow : Hierarchy.Shallow 1 (rebuild ([] : List (Branch Caption))) := by
    intro first member
    contradiction
  have hung := Hierarchy.rebuild_branchesBelow [] below shallow
  rw [List.append_nil] at hung
  rw [linesOf, readLines?, Caption.read_text, mapM_readBranch]
  simp [hung, rebuild, Function.comp_def]

end Outline

namespace Node

/-- A node with its depth below the document and whether it is the last of its siblings. -/
structure Standing where
  node : Node
  depth : Nat
  isLast : Bool

mutual

/-- How a node at a depth stands, and how those inside it do. -/
def standingsAt (depth : Nat) (isLast : Bool) : Node → List Standing
  | .element tag attributes children position =>
    ⟨.element tag attributes children position, depth, isLast⟩ :: standings (depth + 1) children
  | .text content position => [⟨.text content position, depth, isLast⟩]
  | .comment content position => [⟨.comment content position, depth, isLast⟩]

/-- How sibling nodes at a depth stand, and how those inside them do, in document order. -/
def standings (depth : Nat) : List Node → List Standing
  | [] => []
  | node :: rest => standingsAt depth rest.isEmpty node ++ standings depth rest

end

end Node

namespace Outline

open Hierarchy (Branch branchesBelow branchesAt)

/-- Whether a branch hangs as a node stands. -/
def Hangs (standing : Node.Standing) (branch : Branch Caption) : Prop :=
  branch.entry = Caption.ofNode standing.node ∧ branch.depth = standing.depth ∧
    branch.isLast = standing.isLast

/-- The branches of nodes hang as the nodes stand. -/
theorem forall₂_hangs (around : List Bool) (nodes : List Node) :
    List.Forall₂ Hangs (Node.standings (around.length + 1) nodes)
      (branchesBelow around (Node.hierarchies Caption.ofNode nodes)) := by
  induction nodes using Node.forest_induction generalizing around with
  | nil => exact .nil
  | element tag attributes children position rest inside later =>
    have below := inside (around ++ [rest.isEmpty])
    rw [List.length_append, List.length_singleton] at below
    rw [Node.hierarchies, Node.hierarchy, branchesBelow, branchesAt, Node.isEmpty_hierarchies]
    exact List.rel_append (.cons ⟨rfl, rfl, rfl⟩ below) (later around)
  | text content position rest later =>
    rw [Node.hierarchies, Node.hierarchy, branchesBelow, branchesAt, Node.isEmpty_hierarchies]
    exact .cons ⟨rfl, rfl, rfl⟩ (later around)
  | comment content position rest later =>
    rw [Node.hierarchies, Node.hierarchy, branchesBelow, branchesAt, Node.isEmpty_hierarchies]
    exact .cons ⟨rfl, rfl, rfl⟩ (later around)

/-- Whether a line shows how a node stands: behind a column of two characters for each level above
    the node, a connector that closes if the node is the last of its siblings and only then, and
    what is drawn of the node. -/
def Shows (standing : Node.Standing) (line : Text) : Prop :=
  ∃ columns : List Text, columns.length = standing.depth - 1 ∧
    (∀ column ∈ columns, column.length = 2) ∧
    line = columns.flatten ++ (if standing.isLast then ("└─" : String) else ("├─" : String)) ++
      " " ++ (Caption.ofNode standing.node).text

/-- The line of a branch shows a node that stands as the branch hangs. -/
theorem shows_branchLine {standing : Node.Standing} {branch : Branch Caption}
    (hangs : Hangs standing branch) : Shows standing (branchLine branch) := by
  obtain ⟨same, depth, last⟩ := hangs
  refine ⟨branch.around.map column, ?_, ?_, ?_⟩
  · rw [← depth, List.length_map]
    rfl
  · intro column member
    obtain ⟨isLast, -, rfl⟩ := List.mem_map.mp member
    cases isLast <;> rfl
  · rw [branchLine, same, last]
    rfl

end Outline

namespace Document

open Outline (Caption)

/-- The lines of a drawing without broken labels are those of its captions. -/
theorem pieces_draw {document : Document} (unbroken : document.Unbroken) :
    pieces '\n' (Outline.ofDocument document).draw = Outline.linesOf document.captions ++ [[]] := by
  rw [Outline.draw_eq_unlines, captions_ofDocument]
  exact (Text.pieces_unlines_iff _).mpr (document.unbroken_iff.mpr unbroken)

/-- What is drawn of a document whose labels are not broken is read in the lines of its drawing. -/
theorem readLines_draw {document : Document} (unbroken : document.Unbroken) :
    Outline.readLines? (pieces '\n' (Outline.ofDocument document).draw).dropLast =
      some document.captions := by
  rw [pieces_draw unbroken, List.dropLast_concat, Outline.readLines_linesOf]

/-- A drawing without broken labels tells all that is drawn of the document: two documents have the
    same drawing exactly if their trees have the same shape with the same kind and the same label,
    cut, at each place. Below the line of the document, the lines show the nodes in document order,
    each as it stands. -/
theorem drawing_determines_tree {first second : Document} (unbroken : first.Unbroken)
    (otherUnbroken : second.Unbroken) :
    ((Outline.ofDocument first).draw = (Outline.ofDocument second).draw ↔
      first.captions = second.captions) ∧
    ∃ lines, pieces '\n' (Outline.ofDocument first).draw =
        (Caption.of .document (Outline.documentLabel first)).text :: lines ++ [[]] ∧
      List.Forall₂ Outline.Shows (Node.standings 1 first.children) lines := by
  refine ⟨⟨?_, ?_⟩, first.branches.map Outline.branchLine, ?_, ?_⟩
  · intro same
    have read := readLines_draw unbroken
    rw [same, readLines_draw otherUnbroken] at read
    exact (Option.some.inj read).symm
  · intro same
    rw [Outline.draw_eq_unlines, Outline.draw_eq_unlines, captions_ofDocument, captions_ofDocument,
      same]
  · exact pieces_draw unbroken
  · rw [List.forall₂_map_right_iff]
    exact (Outline.forall₂_hangs [] first.children).imp fun _ _ => Outline.shows_branchLine

/-- A source with a text that looks like the end of a line of a drawing, and a comment. -/
def tightTwigSource : Text := "@velocista@@titulo@└─ ◦ Hi@/titulo@##│ note##@/velocista@"

/-- The tree of the source. -/
def tightTwig : Document :=
  ⟨[.element ("velocista" : String) .empty
    [.element ("titulo" : String) .empty [.text ("└─ ◦ Hi" : String) ⟨1, 20⟩] ⟨1, 12⟩,
      .comment ("│ note" : String) ⟨1, 36⟩] ⟨1, 1⟩]⟩

/-- A source with the same text and the same comment, and blanks around them. -/
def looseTwigSource : Text := "@velocista@\n@titulo@  └─ ◦ Hi @/titulo@\n## │ note ##@/velocista@"

/-- The tree of the source with blanks. -/
def looseTwig : Document :=
  ⟨[.element ("velocista" : String) .empty
    [.element ("titulo" : String) .empty [.text ("└─ ◦ Hi " : String) ⟨2, 11⟩] ⟨2, 1⟩,
      .comment (" │ note " : String) ⟨3, 1⟩] ⟨1, 1⟩]⟩

/-- Blanks around a text are not drawn. -/
theorem drawing_determines_tree_spaced :
    parse tightTwigSource = .ok tightTwig ∧ parse looseTwigSource = .ok looseTwig ∧
      tightTwig.captions = looseTwig.captions ∧
      ∃ lines, pieces '\n' (Outline.ofDocument tightTwig).draw =
          (Caption.of .document (Outline.documentLabel tightTwig)).text :: lines ++ [[]] ∧
        List.Forall₂ Outline.Shows (Node.standings 1 tightTwig.children) lines := by
  have tightParsed : parse tightTwigSource = .ok tightTwig := by decide +kernel
  have looseParsed : parse looseTwigSource = .ok looseTwig := by decide +kernel
  have tight : tightTwig.Unbroken := by decide
  have loose : looseTwig.Unbroken := by decide
  have same : (Outline.ofDocument tightTwig).draw = (Outline.ofDocument looseTwig).draw := by decide
  obtain ⟨determined, shown⟩ := drawing_determines_tree tight loose
  exact ⟨tightParsed, looseParsed, determined.mp same, shown⟩

end Document

end FlashMarkup
