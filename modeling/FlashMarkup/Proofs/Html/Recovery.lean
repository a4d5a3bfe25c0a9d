import FlashMarkup.Proofs.Document.Attributes
import FlashMarkup.Proofs.Grammar.Conformance
import FlashMarkup.Proofs.Html.Rendering

/-!
# A document from its HTML

Rendering keeps what a document says: from the HTML of a document the document is obtained again,
but for the positions of its nodes, the blanks around its texts and comments, and what stands inside
an image. The class of an HTML element gives the tag back, although several tags share one element,
and no two attributes share an HTML name.

The tree is rebuilt from the events of the markup with a stack of the elements that are open. What
one walk over a list of nodes adds to the stack is the list itself, as it is displayed.
-/

namespace FlashMarkup

namespace Node

mutual

/-- What HTML shows of a node: no positions, texts and comments without the blanks around them, and
    no content of an image. -/
def displayed : Node → Node
  | .element tag attributes children _ =>
    .element tag attributes (if tag = Html.imageTag then [] else displayeds children) .start
  | .text content _ => .text content.trim .start
  | .comment content _ => .comment content.trim .start

/-- What HTML shows of several nodes. -/
def displayeds : List Node → List Node
  | [] => []
  | node :: rest => displayed node :: displayeds rest

end

end Node

/-- What HTML shows of a document. -/
def Document.displayed (document : Document) : Document := ⟨Node.displayeds document.children⟩

namespace Html

/-- The name of the attribute that HTML shows under a name. -/
def originalName (shown : Text) : Text :=
  ((renamedAttributes.map Prod.swap).lookup shown).getD shown

/-- The HTML name of an attribute gives its name back: the names in the table differ from one
    another, and what no attribute can be called is written with a hyphen. -/
theorem originalName_attributeName {name : Text} (named : Source.IsAttributeName name) :
    originalName (attributeName name) = name := by
  have returns : ∀ entry ∈ renamedAttributes,
      (renamedAttributes.map Prod.swap).lookup entry.2 = some entry.1 := by decide
  have foreign : ∀ entry ∈ renamedAttributes,
      entry.2 = entry.1 ∨ ¬ Source.IsAttributeName entry.2 := by decide
  unfold originalName attributeName
  cases renamed : renamedAttributes.lookup name with
  | some shown =>
    obtain ⟨before, after, split, -⟩ := List.lookup_eq_some_iff.mp renamed
    have member : (name, shown) ∈ renamedAttributes := by simp [split]
    rw [Option.getD_some, returns _ member]
    rfl
  | none =>
    have absent : (renamedAttributes.map Prod.swap).lookup name = none := by
      rw [List.lookup_eq_none_iff] at renamed ⊢
      intro entry member
      obtain ⟨original, inside, rfl⟩ := List.mem_map.mp member
      rcases foreign original inside with same | unnamed
      · have differs := renamed original inside
        rwa [← same] at differs
      · rw [Prod.fst_swap, bne_iff_ne]
        rintro rfl
        exact unnamed named
    rw [Option.getD_none, absent, Option.getD_none]

/-- Attributes with distinct names have distinct HTML names. -/
theorem nodup_map_attributeName {names : List Text}
    (named : ∀ name ∈ names, Source.IsAttributeName name) (distinct : names.Nodup) :
    (names.map attributeName).Nodup := by
  have restored : (names.map attributeName).map originalName = names := by
    rw [List.map_map]
    refine (List.map_congr_left fun name member => ?_).trans (List.map_id' _)
    exact originalName_attributeName (named name member)
  apply List.Nodup.of_map originalName
  rwa [restored]

/-- Only an attribute that is called so itself is called class in HTML. -/
theorem attributeName_eq_class_iff {name : Text} (named : Source.IsAttributeName name) :
    attributeName name = ("class" : Text) ↔ name = ("class" : Text) := by
  constructor
  · intro same
    rw [← originalName_attributeName named, same]
    decide
  · rintro rfl
    decide

/-- The names that a tag shows: those of its attributes, and the class. -/
theorem map_fst_shownAttributes (tag : Text) (attributes : Attributes) :
    (shownAttributes tag attributes).map Prod.fst =
      attributes.names.map attributeName ++ [("class" : Text)] := by
  simp [shownAttributes, Attributes.names, Function.comp_def]

/-- A tag shows distinct names if no attribute is called class. -/
theorem nodup_shownAttributes (tag : Text) {attributes : Attributes}
    (named : ∀ name ∈ attributes.names, Source.IsAttributeName name)
    (absent : ("class" : Text) ∉ attributes.names) :
    ((shownAttributes tag attributes).map Prod.fst).Nodup := by
  rw [map_fst_shownAttributes, List.nodup_append]
  refine ⟨nodup_map_attributeName named attributes.distinct, List.nodup_singleton _, ?_⟩
  rintro shown inside other last rfl
  obtain ⟨name, member, same⟩ := List.mem_map.mp inside
  rw [List.mem_singleton.mp last, attributeName_eq_class_iff (named name member)] at same
  exact absent (same ▸ member)

/-- The element that a tag with these attributes shows: its last attribute is the tag. -/
def shownElement (shown : List (Text × Text)) (children : List Node) : Node :=
  .element ((shown.getLast?.map Prod.snd).getD [])
    (.ofList (shown.dropLast.map fun (name, value) => (originalName name, value))) children .start

/-- The attributes that HTML shows of an element give its tag and its attributes back. -/
theorem shownElement_shownAttributes (tag : Text) {attributes : Attributes}
    (named : ∀ entry ∈ attributes.entries, Source.IsAttributeName entry.1) (children : List Node) :
    shownElement (shownAttributes tag attributes) children =
      .element tag attributes children .start := by
  have restored : attributes.entries.map
      (fun entry => (originalName (attributeName entry.1), entry.2)) = attributes.entries := by
    refine (List.map_congr_left fun entry member => ?_).trans (List.map_id' _)
    rw [originalName_attributeName (named entry member)]
  simp only [shownElement, shownAttributes, List.getLast?_append, List.getLast?_singleton,
    Option.some_or, Option.map_some, Option.getD_some, List.dropLast_concat, List.map_map,
    Function.comp_def, restored, Attributes.ofList_entries]

/-- An element that is open: the nodes in front of it, the last one first, and the attributes of its
    start tag. -/
structure Opened where
  before : List Node
  shown : List (Text × Text)

/-- The nodes whose walk meets these events, behind `siblings`, the last of which comes first, and
    inside the elements that are open. -/
def rebuild (opened : List Opened) (siblings : List Node) : List Event → Option (List Node)
  | [] => if opened.isEmpty then some siblings.reverse else none
  | .start _ shown :: rest => rebuild (⟨siblings, shown⟩ :: opened) [] rest
  | .stop _ :: rest =>
    match opened with
    | [] => none
    | innermost :: outer =>
      rebuild outer (shownElement innermost.shown siblings.reverse :: innermost.before) rest
  | .selfClosing _ shown :: rest => rebuild opened (shownElement shown [] :: siblings) rest
  | .text content :: rest => rebuild opened (.text content .start :: siblings) rest
  | .comment content :: rest => rebuild opened (.comment content .start :: siblings) rest

/-- The walk over nodes adds the nodes, as they are displayed.

    Recurse on the nodes. Inside an element the walk starts with no siblings, and its end tag puts
    the element behind those that were there before. -/
theorem rebuild_traces (opened : List Opened) (siblings : List Node) (rest : List Event)
    {nodes : List Node} (writable : Node.Writables nodes) :
    rebuild opened siblings (Node.traces nodes ++ rest) =
      rebuild opened ((Node.displayeds nodes).reverse ++ siblings) rest := by
  match nodes with
  | [] => rfl
  | .text content position :: others =>
    have later := rebuild_traces opened (.text content.trim .start :: siblings) rest writable.2.2
    simpa [Node.traces, Node.trace, Node.displayeds, Node.displayed, rebuild] using later
  | .comment content position :: others =>
    have later := rebuild_traces opened (.comment content.trim .start :: siblings) rest writable.2.2
    simpa [Node.traces, Node.trace, Node.displayeds, Node.displayed, rebuild] using later
  | .element tag attributes children position :: others =>
    obtain ⟨⟨-, valid, inside⟩, -, followed⟩ := writable
    have shows := shownElement_shownAttributes tag fun entry member => (valid entry member).1
    by_cases image : tag = imageTag
    · have later := rebuild_traces opened (.element tag attributes [] .start :: siblings) rest
        followed
      simp only [Node.traces, Node.trace, if_pos image, List.cons_append, List.nil_append, rebuild,
        shows, later, Node.displayeds, Node.displayed, List.reverse_cons, List.append_assoc]
    · have within := rebuild_traces (⟨siblings, shownAttributes tag attributes⟩ :: opened) []
        (.stop (elementName tag) :: (Node.traces others ++ rest)) inside
      have later := rebuild_traces opened
        (.element tag attributes (Node.displayeds children) .start :: siblings) rest followed
      simp only [Node.traces, Node.trace, image, if_false, List.cons_append, List.append_assoc,
        List.nil_append, rebuild, within, List.append_nil, List.reverse_reverse, shows, later,
        Node.displayeds, Node.displayed, List.reverse_cons]

/-- The document that HTML shows. -/
def restore (body : Text) : Option Document := do
  let events ← readMarkup body
  let nodes ← rebuild [] [] events
  return ⟨nodes⟩

/-- The HTML of a document that can be written is read as the walk over its nodes. -/
theorem readMarkup_renderBody (indent : Nat) {document : Document} (writable : document.Writable) :
    readMarkup (renderBody indent document) = some (Node.traces document.children) := by
  have read := readMarkup_nodesBefore indent 0 document.children writable.parts startsMarkup_nil
  rw [renderBody, renderNodes, read, readMarkup.eq_def]
  simp

/-- The HTML of a document that can be written shows the document. -/
theorem restore_renderBody (indent : Nat) {document : Document} (writable : document.Writable) :
    restore (renderBody indent document) = some document.displayed := by
  have rebuilt := rebuild_traces [] [] [] writable.parts
  rw [List.append_nil, List.append_nil] at rebuilt
  simp [restore, readMarkup_renderBody indent writable, rebuilt, rebuild, Document.displayed]

/-- The attributes of a tag that opens an element. -/
def Event.attributes? : Event → Option (List (Text × Text))
  | .start _ attributes => some attributes
  | .selfClosing _ attributes => some attributes
  | .stop _ => none
  | .text _ => none
  | .comment _ => none

/-- Whatever tag is met in nodes shows the attributes of one of their elements. -/
theorem shown_of_mem_traces (ancestors : List Text) (nodes : List Node) :
    ∀ event ∈ Node.traces nodes, ∀ shown ∈ event.attributes?,
      ∃ element ∈ Node.occurrencesOf ancestors nodes,
        shown = shownAttributes element.tag element.attributes := by
  intro event member shown shows
  match nodes with
  | [] => contradiction
  | node :: others =>
    rcases List.mem_append.mp member with first | later
    · suffices inside : ∃ element ∈ Node.occurrences ancestors node,
          shown = shownAttributes element.tag element.attributes by
        obtain ⟨element, listed, same⟩ := inside
        exact ⟨element, List.mem_append_left _ listed, same⟩
      cases node with
      | text => cases List.mem_singleton.mp first; contradiction
      | comment => cases List.mem_singleton.mp first; contradiction
      | element tag attributes children position =>
        rw [Node.trace] at first
        split at first
        next =>
          cases List.mem_singleton.mp first
          exact ⟨_, List.mem_cons_self, (Option.some.inj shows).symm⟩
        next =>
          rcases List.mem_cons.mp first with rfl | behind
          · exact ⟨_, List.mem_cons_self, (Option.some.inj shows).symm⟩
          · rcases List.mem_append.mp behind with within | last
            · obtain ⟨element, listed, same⟩ :=
                shown_of_mem_traces (tag :: ancestors) children event within shown shows
              exact ⟨element, List.mem_cons_of_mem _ listed, same⟩
            · cases List.mem_singleton.mp last
              contradiction
    · obtain ⟨element, listed, same⟩ := shown_of_mem_traces ancestors others event later shown shows
      exact ⟨element, List.mem_append_right _ listed, same⟩

/-- No rule lists an attribute that HTML uses for the tag, and all that are listed are names. -/
theorem named_of_conforms {element : Occurrence} (conforms : element.Conforms) :
    ∀ name ∈ element.attributes.names, Source.IsAttributeName name ∧ name ≠ ("class" : Text) := by
  have listed (tag : Tag) : ∀ name ∈ tag.rule.required ++ tag.rule.optional,
      Source.IsAttributeName name ∧ name ≠ ("class" : Text) := by
    cases tag <;> decide
  obtain ⟨rule, ruled, -, -, allowed⟩ := conforms
  obtain ⟨tag, -, rfl⟩ := Option.map_eq_some_iff.mp ruled
  intro name member
  exact listed tag name (List.mem_append.mpr (allowed name member))

/-- HTML shows the attributes of an element that conforms under distinct names, one of which is the
    class. -/
theorem names_of_conforms {element : Occurrence} (conforms : element.Conforms) :
    let names := (shownAttributes element.tag element.attributes).map Prod.fst
    names.Nodup ∧ names.count ("class" : Text) = 1 := by
  have named := named_of_conforms conforms
  have distinct := nodup_shownAttributes element.tag (fun name member => (named name member).1)
    fun member => (named _ member).2 rfl
  refine ⟨distinct, List.count_eq_one_of_mem distinct ?_⟩
  rw [map_fst_shownAttributes]
  exact List.mem_append_right _ (List.mem_singleton_self _)

end Html

/-- The HTML of a source that compiles determines its document, but for the positions of its nodes,
    the blanks around texts and comments, and what stands inside images: one function finds the
    document in the HTML, so documents with the same HTML are the same. Each start tag has distinct
    attribute names, and just one of them is the class. -/
theorem body_determines_document {options others : CompileOptions} {source other : Text}
    {first second : Compiled} (compiled : compile options source = .ok first)
    (otherCompiled : compile others other = .ok second) (indent : Nat) :
    (Html.renderBody indent first.document = Html.renderBody indent second.document →
        first.document.displayed = second.document.displayed) ∧
      Html.restore (Html.renderBody indent first.document) = some first.document.displayed ∧
      ∃ events, Html.readMarkup (Html.renderBody indent first.document) = some events ∧
        ∀ event ∈ events, ∀ attributes ∈ event.attributes?,
          (attributes.map Prod.fst).Nodup ∧
            (attributes.map Prod.fst).count ("class" : Text) = 1 := by
  obtain ⟨document, parsed, valid, rfl⟩ := compile_eq_ok_iff.mp compiled
  obtain ⟨otherDocument, otherParsed, -, rfl⟩ := compile_eq_ok_iff.mp otherCompiled
  have restored := Html.restore_renderBody indent (writable_of_parse parsed)
  have otherRestored := Html.restore_renderBody indent (writable_of_parse otherParsed)
  have read := Html.readMarkup_renderBody indent (writable_of_parse parsed)
  refine ⟨?_, restored, _, read, ?_⟩
  · intro same
    rw [same, otherRestored] at restored
    exact (Option.some.inj restored).symm
  · intro event member attributes shows
    obtain ⟨element, listed, rfl⟩ := Html.shown_of_mem_traces [] _ event member attributes shows
    exact Html.names_of_conforms (Document.conforms_of_validate valid element listed)

/-- A source with nothing between its tags, but content in an image. -/
def tightSource : Text :=
  "@velocista@@personaje nombre='Barry'@Hi@/personaje@@imagen src='a.png'@x@/imagen@" ++
    "##note##@/velocista@"

/-- The tree of the tight source. -/
def tightDocument : Document :=
  ⟨[.element ("velocista" : String) .empty
    [.element ("personaje" : String) (.ofList [(("nombre" : String), ("Barry" : String))])
      [.text ("Hi" : String) ⟨1, 38⟩] ⟨1, 12⟩,
      .element ("imagen" : String) (.ofList [(("src" : String), ("a.png" : String))])
        [.text ("x" : String) ⟨1, 72⟩] ⟨1, 52⟩,
      .comment ("note" : String) ⟨1, 82⟩] ⟨1, 1⟩]⟩

/-- A source that says the same, with blanks between its tags and in its comment, another quote and
    nothing in its image. -/
def looseSource : Text :=
  "@velocista@ @personaje nombre=\"Barry\"@Hi@/personaje@\n@imagen src='a.png'@@/imagen@" ++
    "## note  ##@/velocista@"

/-- The tree of the loose source. -/
def looseDocument : Document :=
  ⟨[.element ("velocista" : String) .empty
    [.element ("personaje" : String) (.ofList [(("nombre" : String), ("Barry" : String))])
      [.text ("Hi" : String) ⟨1, 39⟩] ⟨1, 13⟩,
      .element ("imagen" : String) (.ofList [(("src" : String), ("a.png" : String))]) [] ⟨2, 1⟩,
      .comment (" note  " : String) ⟨2, 30⟩] ⟨1, 1⟩]⟩

/-- Both sources compile to the same HTML, and their documents are the same but for what HTML does
    not show. -/
theorem body_determines_document_spaced :
    ∃ first second, compile {} tightSource = .ok first ∧ compile {} looseSource = .ok second ∧
      first.document = tightDocument ∧ second.document = looseDocument ∧
      Html.renderBody 2 first.document = Html.renderBody 2 second.document ∧
      first.document.displayed = second.document.displayed := by
  have tightParsed : parse tightSource = .ok tightDocument := by decide +kernel
  have looseParsed : parse looseSource = .ok looseDocument := by decide +kernel
  have tightValid : tightDocument.validate = [] := by decide +kernel
  have looseValid : looseDocument.validate = [] := by decide +kernel
  have tight : compile {} tightSource = .ok _ :=
    compile_eq_ok_iff.mpr ⟨_, tightParsed, tightValid, rfl⟩
  have loose : compile {} looseSource = .ok _ :=
    compile_eq_ok_iff.mpr ⟨_, looseParsed, looseValid, rfl⟩
  have same : Html.renderBody 2 tightDocument = Html.renderBody 2 looseDocument := by decide +kernel
  exact ⟨_, _, tight, loose, rfl, rfl, same, (body_determines_document tight loose 2).1 same⟩

end FlashMarkup
