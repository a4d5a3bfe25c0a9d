import FlashMarkup.Data.Json
import FlashMarkup.Data.Yaml
import FlashMarkup.Document.Basic
import FlashMarkup.Text.Blank

/-!
# Records of documents

A record is the tree of a document without positions, one record per node, made to be stored: a
text is trimmed, a comment is kept as it is. Every record says of which kind it is.
-/

namespace FlashMarkup

/-- A document or one of its nodes, ready to be stored. -/
inductive Record where
  | document (children : List Record)
  | element (tag : Text) (attributes : Attributes) (children : List Record)
  | text (content : Text)
  | comment (content : Text)

namespace Record

/-- What can be chosen about a stored record: whether its layout is indented. -/
structure Options where
  pretty : Bool := true
deriving DecidableEq, Repr

mutual

/-- The record of a node. -/
def ofNode : Node → Record
  | .element tag attributes children _ => .element tag attributes (ofNodes children)
  | .text content _ => .text content.trim
  | .comment content _ => .comment content

/-- The records of several nodes, in order. -/
def ofNodes : List Node → List Record
  | [] => []
  | node :: rest => ofNode node :: ofNodes rest

end

/-- The record of a document. -/
def ofDocument (document : Document) : Record := .document (ofNodes document.children)

mutual

/-- The number of records in a tree, its root included. -/
def nodeCount : Record → Nat
  | .document children => 1 + nodeCounts children
  | .element _ _ children => 1 + nodeCounts children
  | .text _ => 1
  | .comment _ => 1

/-- The number of records in several trees. -/
def nodeCounts : List Record → Nat
  | [] => 0
  | record :: rest => nodeCount record + nodeCounts rest

end

mutual

/-- The number of levels of a tree, its root included. -/
def depth : Record → Nat
  | .document children => 1 + depths children
  | .element _ _ children => 1 + depths children
  | .text _ => 1
  | .comment _ => 1

/-- The number of levels of the highest of several trees. -/
def depths : List Record → Nat
  | [] => 0
  | record :: rest => max (depth record) (depths rest)

end

/-- Attributes as the fields of a record. -/
def attributesData (attributes : Attributes) : Data :=
  .record (attributes.entries.map fun (name, value) => (name, .text value))

mutual

/-- The record as structured data. -/
def toData : Record → Data
  | .document children =>
    .record [("kind", .text "document"), ("children", .list (toDataList children))]
  | .element tag attributes children =>
    .record [("kind", .text "element"), ("tagName", .text tag),
      ("attributes", attributesData attributes), ("children", .list (toDataList children))]
  | .text content => .record [("kind", .text "text"), ("text", .text content)]
  | .comment content => .record [("kind", .text "comment"), ("text", .text content)]

/-- Several records as structured data, in order. -/
def toDataList : List Record → List Data
  | [] => []
  | record :: rest => toData record :: toDataList rest

end

/-- The record as JSON. -/
def toJson (options : Options) (record : Record) : Text :=
  if options.pretty then record.toData.toJsonPretty else record.toData.toJson

/-- The record as YAML. -/
def toYaml (record : Record) : Text := record.toData.toYaml

end Record

end FlashMarkup
