import FlashMarkup.Format.BuiltIn
import FlashMarkup.Proofs.Data.JsonReading
import FlashMarkup.Proofs.Text.Trim

/-!
# Records from their JSON

What is stored of a document is found again: the data of a record give the record back, and the
text gives the data back in either layout. The names of attributes are the keys of a record of
their own, so an attribute may be called like a field of the record around it.

What a record leaves out of a document are the positions of its nodes and the blanks around its
texts. Documents are stored as the same text exactly if they differ in nothing else.
-/

namespace FlashMarkup

namespace Data

mutual

/-- Whether no record in a value has a key twice. -/
def DistinctKeys : Data → Prop
  | .list items => DistinctKeysOfItems items
  | .record fields => (fields.map Prod.fst).Nodup ∧ DistinctKeysOfFields fields
  | .null => True
  | .boolean _ => True
  | .number _ => True
  | .text _ => True

/-- Whether no record in the items of a list has a key twice. -/
def DistinctKeysOfItems : List Data → Prop
  | [] => True
  | item :: rest => DistinctKeys item ∧ DistinctKeysOfItems rest

/-- Whether no record in the values of fields has a key twice. -/
def DistinctKeysOfFields : List (Text × Data) → Prop
  | [] => True
  | (_, value) :: rest => DistinctKeys value ∧ DistinctKeysOfFields rest

end

end Data

namespace Record

/-- The name and the text of a field that holds a text. -/
def textField? : Text × Data → Option (Text × Text)
  | (name, .text content) => some (name, content)
  | _ => none

/-- The attributes that the fields of a record stand for: texts under distinct names. -/
def attributesOf? : Data → Option Attributes
  | .record fields =>
    match fields.mapM textField? with
    | some entries =>
      if distinct : (entries.map Prod.fst).Nodup then some ⟨entries, distinct⟩ else none
    | none => none
  | _ => none

mutual

/-- The record that data stand for. -/
def ofData? : Data → Option Record
  | .record [(kind, .text sort), (inside, .list items)] =>
    if kind = "kind" ∧ sort = "document" ∧ inside = "children" then
      (ofDataList? items).map .document
    else none
  | .record [(kind, .text sort), (name, .text tag), (given, attributes), (inside, .list items)] =>
    if kind = "kind" ∧ sort = "element" ∧ name = "tagName" ∧ given = "attributes" ∧
        inside = "children" then
      match attributesOf? attributes, ofDataList? items with
      | some attributes, some children => some (.element tag attributes children)
      | _, _ => none
    else none
  | .record [(kind, .text sort), (name, .text content)] =>
    if kind = "kind" ∧ sort = "text" ∧ name = "text" then some (.text content)
    else if kind = "kind" ∧ sort = "comment" ∧ name = "text" then some (.comment content)
    else none
  | _ => none

/-- The records that the items of a list stand for. -/
def ofDataList? : List Data → Option (List Record)
  | [] => some []
  | data :: rest =>
    match ofData? data, ofDataList? rest with
    | some record, some others => some (record :: others)
    | _, _ => none

end

/-- Attributes are read as they are stored. -/
theorem attributesOf_attributesData (attributes : Attributes) :
    attributesOf? (attributesData attributes) = some attributes := by
  have stored : attributesData attributes =
      .record (attributes.entries.map fun entry => (entry.1, .text entry.2)) := rfl
  have read (entries : List (Text × Text)) :
      (entries.map fun entry => (entry.1, Data.text entry.2)).mapM textField? = some entries := by
    induction entries with
    | nil => rfl
    | cons entry rest ih => simp [List.mapM_cons, textField?, ih]
  simp only [stored, attributesOf?, read]
  exact dif_pos attributes.distinct

mutual

/-- A record is read as it is stored. -/
theorem ofData_toData (record : Record) : ofData? record.toData = some record := by
  match record with
  | .document children =>
    have inside := ofDataList_toDataList children
    simp [toData, ofData?, inside]
  | .element tag attributes children =>
    have inside := ofDataList_toDataList children
    have given := attributesOf_attributesData attributes
    simp [toData, ofData?, inside, given]
  | .text content => simp [toData, ofData?]
  | .comment content => simp [toData, ofData?]

/-- Records are read as they are stored. -/
theorem ofDataList_toDataList (records : List Record) :
    ofDataList? (toDataList records) = some records := by
  match records with
  | [] => rfl
  | record :: others =>
    have first := ofData_toData record
    have later := ofDataList_toDataList others
    simp [toDataList, ofDataList?, first, later]

end

/-- Texts as fields hold no records. -/
theorem distinctKeys_texts (entries : List (Text × Text)) :
    Data.DistinctKeysOfFields (entries.map fun entry => (entry.1, .text entry.2)) := by
  induction entries with
  | nil => trivial
  | cons entry rest ih => exact ⟨trivial, ih⟩

/-- Attributes are stored under distinct keys. -/
theorem distinctKeys_attributesData (attributes : Attributes) :
    (attributesData attributes).DistinctKeys := by
  have names : (attributes.entries.map fun entry => (entry.1, Data.text entry.2)).map Prod.fst =
      attributes.names := by
    simp [Attributes.names, Function.comp_def]
  have distinct : attributes.names.Nodup := attributes.distinct
  exact ⟨names ▸ distinct, distinctKeys_texts attributes.entries⟩

mutual

/-- Everything in a record is stored under distinct keys. -/
theorem distinctKeys_toData (record : Record) : record.toData.DistinctKeys := by
  match record with
  | .document children =>
    have keys : (["kind", "children"] : List Text).Nodup := by decide
    exact ⟨keys, trivial, distinctKeys_toDataList children, trivial⟩
  | .element tag attributes children =>
    have keys : (["kind", "tagName", "attributes", "children"] : List Text).Nodup := by decide
    exact ⟨keys, trivial, trivial, distinctKeys_attributesData attributes,
      distinctKeys_toDataList children, trivial⟩
  | .text content =>
    have keys : (["kind", "text"] : List Text).Nodup := by decide
    exact ⟨keys, trivial, trivial, trivial⟩
  | .comment content =>
    have keys : (["kind", "text"] : List Text).Nodup := by decide
    exact ⟨keys, trivial, trivial, trivial⟩

/-- Everything in records is stored under distinct keys. -/
theorem distinctKeys_toDataList (records : List Record) :
    Data.DistinctKeysOfItems (toDataList records) := by
  match records with
  | [] => trivial
  | record :: others => exact ⟨distinctKeys_toData record, distinctKeys_toDataList others⟩

end

/-- The text of a record spells its data, whatever the layout. -/
theorem read_toJson (options : Options) (record : Record) :
    Json.read? (record.toJson options) = some record.toData := by
  rw [toJson]
  split
  next => exact Data.read_toJsonPretty record.toData
  next => exact Data.read_toJson record.toData

/-- In either layout, records with the same text are the same. -/
theorem toJson_inj {options : Options} {first second : Record} :
    first.toJson options = second.toJson options ↔ first = second := by
  constructor
  · intro same
    have data : some first.toData = some second.toData := by
      rw [← read_toJson options first, same, read_toJson options second]
    have record : some first = some second := by
      rw [← ofData_toData first, Option.some.inj data, ofData_toData second]
    exact Option.some.inj record
  · rintro rfl
    rfl

end Record

namespace Node

mutual

/-- Whether nodes are the same but for the positions in them and the blanks around their texts. -/
def Alike : Node → Node → Prop
  | .element tag attributes children _, .element other others nodes _ =>
    tag = other ∧ attributes = others ∧ AlikeAll children nodes
  | .text content _, .text other _ => content.SameInside other
  | .comment content _, .comment other _ => content = other
  | _, _ => False

/-- Whether there are as many nodes on both sides, each one like the one in its place. -/
def AlikeAll : List Node → List Node → Prop
  | [], [] => True
  | node :: rest, other :: others => Alike node other ∧ AlikeAll rest others
  | _, _ => False

end

mutual

/-- Nodes have the same record exactly if they are alike. -/
theorem ofNode_eq_iff (node other : Node) :
    Record.ofNode node = Record.ofNode other ↔ node.Alike other := by
  match node, other with
  | .element tag attributes children _, .element _ _ nodes _ =>
    have inside := ofNodes_eq_iff children nodes
    simp [Record.ofNode, Alike, inside]
  | .text content _, .text other _ => simp [Record.ofNode, Alike, Text.sameInside_iff]
  | .comment content _, .comment other _ => simp [Record.ofNode, Alike]
  | .element .., .text .. => simp [Record.ofNode, Alike]
  | .element .., .comment .. => simp [Record.ofNode, Alike]
  | .text .., .element .. => simp [Record.ofNode, Alike]
  | .text .., .comment .. => simp [Record.ofNode, Alike]
  | .comment .., .element .. => simp [Record.ofNode, Alike]
  | .comment .., .text .. => simp [Record.ofNode, Alike]

/-- Lists of nodes have the same records exactly if they are alike. -/
theorem ofNodes_eq_iff (nodes others : List Node) :
    Record.ofNodes nodes = Record.ofNodes others ↔ AlikeAll nodes others := by
  match nodes, others with
  | [], [] => simp [AlikeAll]
  | node :: rest, other :: later =>
    have first := ofNode_eq_iff node other
    have behind := ofNodes_eq_iff rest later
    simp [Record.ofNodes, AlikeAll, first, behind]
  | [], _ :: _ => simp [Record.ofNodes, AlikeAll]
  | _ :: _, [] => simp [Record.ofNodes, AlikeAll]

end

end Node

/-- Whether documents are the same but for the positions in them and the blanks around their
    texts. -/
def Document.Alike (first second : Document) : Prop :=
  Node.AlikeAll first.children second.children

/-- Every document is stored as JSON in either layout. Both layouts spell the same data, in which no
    record has a key twice and from which the record of the document is read again. In one layout,
    documents are stored as the same text exactly if they are the same but for the positions of
    their nodes and the blanks around their texts. -/
theorem Formatter.json_keeps_record (document : Document) :
    (∃ data : Data, data.DistinctKeys ∧ Record.ofData? data = some (.ofDocument document) ∧
      ∀ options, ∃ stored, (Formatter.json options).render document = .ok stored ∧
        Json.read? stored = some data) ∧
      ∀ options other,
        (Formatter.json options).render document = (Formatter.json options).render other ↔
          document.Alike other := by
  have written (options : Record.Options) (document : Document) :
      (Formatter.json options).render document =
        .ok ((Record.ofDocument document).toJson options) := rfl
  constructor
  · refine ⟨(Record.ofDocument document).toData, Record.distinctKeys_toData _,
      Record.ofData_toData _, ?_⟩
    intro options
    exact ⟨_, written options document, Record.read_toJson options _⟩
  · intro options other
    rw [written, written, Except.ok.injEq, Record.toJson_inj, Record.ofDocument, Record.ofDocument,
      Record.document.injEq]
    exact Node.ofNodes_eq_iff document.children other.children

end FlashMarkup
