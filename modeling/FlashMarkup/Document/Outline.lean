import FlashMarkup.Document.Basic
import FlashMarkup.Text.Blank

/-!
# Outlines

An outline shows the shape of a document: per node its kind, a label and its position. Drawn as
a tree it takes one line per node, with connectors that show where the node hangs.
-/

namespace FlashMarkup

/-- The kinds of outline entries. -/
inductive Outline.Kind where
  | document
  | element
  | text
  | comment
deriving DecidableEq, Repr

/-- An entry with its label, its position and the entries below it. -/
inductive Outline where
  | entry (kind : Outline.Kind) (label : Text) (position : Position) (children : List Outline)

namespace Outline

/-- The word for a kind. -/
def Kind.toText : Kind → Text
  | .document => "Document"
  | .element => "Element"
  | .text => "Text"
  | .comment => "Comment"

/-- The symbol for a kind. -/
def Kind.icon : Kind → Text
  | .document => "⧉"
  | .element => "◇"
  | .text => "◦"
  | .comment => "※"

/-- One attribute in a label, with a leading space. -/
def attributeLabel (name value : Text) : Text := " " ++ name ++ "=\"" ++ value ++ "\""

/-- The kind of a node. -/
def kindOf : Node → Kind
  | .element _ _ _ _ => .element
  | .text _ _ => .text
  | .comment _ _ => .comment

/-- The label of a node: its tag and attributes, or its trimmed content. -/
def labelOf : Node → Text
  | .element tag attributes _ _ =>
    "@" ++ tag ++ attributes.entries.flatMap fun (name, value) => attributeLabel name value
  | .text content _ => content.trim
  | .comment content _ => content.trim

/-- The label of a document. -/
def documentLabel (document : Document) : Text :=
  "Document (" ++ Text.decimal document.children.length ++ " items)"

mutual

/-- The outline of a node. -/
def ofNode : Node → Outline
  | .element tag attributes children position =>
    .entry .element (labelOf (.element tag attributes children position)) position
      (ofNodes children)
  | .text content position => .entry .text (labelOf (.text content position)) position []
  | .comment content position =>
    .entry .comment (labelOf (.comment content position)) position []

/-- The outlines of several nodes, in order. -/
def ofNodes : List Node → List Outline
  | [] => []
  | node :: rest => ofNode node :: ofNodes rest

end

/-- The outline of a document. -/
def ofDocument (document : Document) : Outline :=
  .entry .document (documentLabel document) .start (ofNodes document.children)

/-- How many characters of a label a drawing shows. -/
def labelWidth : Nat := 30

/-- The symbol and the label of an entry, which end its line. -/
def caption (kind : Kind) (label : Text) : Text :=
  kind.icon ++ " " ++ label.truncate labelWidth ++ "\n"

mutual

/-- The lines of an entry and of everything below it, in front of what follows them. `stem` stands
    in front of its connector. -/
def entryBefore (stem : Text) (isLast : Bool) (after : Text) : Outline → Text
  | .entry kind label _ children =>
    stem ++ (if isLast then "└─" else "├─") ++ " " ++ caption kind label ++
      entriesBefore (stem ++ if isLast then "  " else "│ ") after children

/-- The lines of sibling entries, in front of what follows them. -/
def entriesBefore (stem : Text) (after : Text) : List Outline → Text
  | [] => after
  | first :: rest => entryBefore stem rest.isEmpty (entriesBefore stem after rest) first

end

/-- The drawing of an outline. Its root has no connector. -/
def draw : Outline → Text
  | .entry kind label _ children => caption kind label ++ entriesBefore [] [] children

end Outline

end FlashMarkup
