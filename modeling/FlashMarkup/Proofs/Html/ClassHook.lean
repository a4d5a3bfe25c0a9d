import FlashMarkup.Proofs.Html.Recovery

/-!
# The class of a rendered element

A stylesheet and a script find an element by its class, which holds the tag name. The class is
written behind the attributes of the source, and an attribute of the source that is called `class`
keeps its name. Such an element shows two classes, of which a reader of HTML keeps the first, the
one of the source. All other names of a tag differ from one another.

The grammar lists no attribute of that name, so every tag of a valid document shows one class. What
is rendered without being validated need not.
-/

namespace FlashMarkup

namespace Html

/-- The values of the attributes that a tag shows under a name, in order. -/
def valuesOf (name : Text) (shown : List (Text × Text)) : List Text :=
  (shown.filter (·.1 = name)).map Prod.snd

/-- Whether the attributes that a tag shows have distinct names, and their only class is the given
    one. -/
def Hooked (hook : Text) (shown : List (Text × Text)) : Prop :=
  (shown.map Prod.fst).Nodup ∧ valuesOf "class" shown = [hook]

/-- Values are listed in the order of their attributes. -/
theorem valuesOf_append (name : Text) (first second : List (Text × Text)) :
    valuesOf name (first ++ second) = valuesOf name first ++ valuesOf name second := by
  rw [valuesOf, List.filter_append, List.map_append]
  rfl

/-- Attributes have at most one value under a name: the one that is found there. -/
theorem valuesOf_entries (name : Text) (attributes : Attributes) :
    valuesOf name attributes.entries = (attributes.get? name).toList := by
  have single (entries : List (Text × Text)) (distinct : (entries.map Prod.fst).Nodup) :
      valuesOf name entries = ((entries.find? (·.1 == name)).map Prod.snd).toList := by
    induction entries with
    | nil => rfl
    | cons entry rest inductionHypothesis =>
      obtain ⟨first, later⟩ := List.nodup_cons.mp distinct
      by_cases same : entry.1 = name
      · have none : rest.filter (·.1 = name) = [] := by
          rw [List.filter_eq_nil_iff]
          intro other member again
          have equal : other.1 = entry.1 := (of_decide_eq_true again).trans same.symm
          exact first (equal ▸ List.mem_map_of_mem member)
        simp [valuesOf, same, none]
      · simpa [valuesOf, same] using inductionHypothesis later
  exact single attributes.entries attributes.distinct

section

variable (tag : Text) {attributes : Attributes}
  (named : ∀ name ∈ attributes.names, Source.IsAttributeName name)

include named

/-- The classes that a tag shows: the one of the source, if it has one, and then the tag. -/
theorem valuesOf_class_shownAttributes :
    valuesOf "class" (shownAttributes tag attributes) =
      (attributes.get? "class").toList ++ [tag] := by
  have shown : shownAttributes tag attributes =
      attributes.entries.map (fun entry => (attributeName entry.1, entry.2)) ++
        [(("class" : Text), tag)] := rfl
  have kept : valuesOf "class"
      (attributes.entries.map fun entry => (attributeName entry.1, entry.2)) =
        valuesOf "class" attributes.entries := by
    rw [valuesOf, valuesOf, List.filter_map, List.map_map]
    refine congrArg _ (List.filter_congr ?_)
    intro entry member
    have isName := named entry.1 (List.mem_map_of_mem member)
    exact decide_eq_decide.mpr (attributeName_eq_class_iff isName)
  rw [shown, valuesOf_append, kept, valuesOf_entries]
  rfl

/-- Apart from the class, the names that a tag shows are distinct. -/
theorem nodup_filter_shownAttributes :
    (((shownAttributes tag attributes).map Prod.fst).filter (· ≠ ("class" : Text))).Nodup := by
  rw [map_fst_shownAttributes, List.filter_append]
  simpa using (nodup_map_attributeName named attributes.distinct).filter _

/-- A tag shows its class properly exactly if the source gives it no class. -/
theorem hooked_shownAttributes_iff :
    Hooked tag (shownAttributes tag attributes) ↔ attributes.get? "class" = none := by
  rw [Hooked, valuesOf_class_shownAttributes tag named]
  constructor
  · rintro ⟨-, single⟩
    cases found : attributes.get? "class" with
    | none => rfl
    | some value =>
      rw [found] at single
      exact absurd (congrArg List.length single) (by simp)
  · intro none
    have absent : ("class" : Text) ∉ attributes.names := by
      intro member
      have holds := (attributes.contains_iff "class").mpr member
      rw [Attributes.contains, none] at holds
      contradiction
    exact ⟨nodup_shownAttributes tag named absent, by rw [none]; rfl⟩

end

/-- The tags met in nodes are those of the elements that are displayed, in document order. -/
theorem filterMap_attributes?_traces (ancestors : List Text) (nodes : List Node) :
    (Node.traces nodes).filterMap Event.attributes? =
      (Node.occurrencesOf ancestors (Node.displayeds nodes)).map fun element =>
        shownAttributes element.tag element.attributes := by
  match nodes with
  | [] => rfl
  | .text content position :: others => exact filterMap_attributes?_traces ancestors others
  | .comment content position :: others => exact filterMap_attributes?_traces ancestors others
  | .element tag attributes children position :: others =>
    have inside := filterMap_attributes?_traces (tag :: ancestors) children
    have later := filterMap_attributes?_traces ancestors others
    by_cases image : tag = imageTag
    · simp [Node.traces, Node.trace, Node.displayeds, Node.displayed, Node.occurrencesOf,
        Node.occurrences, Event.attributes?, image, later]
    · simp [Node.traces, Node.trace, Node.displayeds, Node.displayed, Node.occurrencesOf,
        Node.occurrences, List.filterMap_cons, Event.attributes?, image, inside, later]

/-- If nodes can be written, the attributes of every element that is displayed are called as the
    notation allows. -/
theorem named_of_writables (ancestors : List Text) {nodes : List Node}
    (writable : Node.Writables nodes) :
    ∀ element ∈ Node.occurrencesOf ancestors (Node.displayeds nodes),
      ∀ name ∈ element.attributes.names, Source.IsAttributeName name := by
  intro element member
  match nodes with
  | [] => contradiction
  | .text content position :: others => exact named_of_writables ancestors writable.2.2 _ member
  | .comment content position :: others => exact named_of_writables ancestors writable.2.2 _ member
  | .element tag attributes children position :: others =>
    obtain ⟨⟨-, valid, inside⟩, -, followed⟩ := writable
    rcases List.mem_append.mp member with first | later
    · rcases List.mem_cons.mp first with rfl | within
      · intro name listed
        obtain ⟨entry, written, rfl⟩ := List.mem_map.mp listed
        exact (valid entry written).1
      · split at within
        next => contradiction
        next => exact named_of_writables (tag :: ancestors) inside _ within
    · exact named_of_writables ancestors followed _ later

end Html

/-- The tags in the HTML of a source are those of its displayed elements, in document order. Each
    shows the class of the source, if its element has one, and then its tag as a class; no other
    name occurs twice. So a tag has distinct names and its element's tag as the only class exactly
    where the source gives the element no class. -/
theorem renderBody_hooked_iff {source : Text} {document : Document}
    (parsed : parse source = .ok document) (indent : Nat) :
    ∃ events, Html.readMarkup (Html.renderBody indent document) = some events ∧
      events.filterMap Html.Event.attributes? =
        document.displayed.occurrences.map (fun element =>
          Html.shownAttributes element.tag element.attributes) ∧
      ∀ element ∈ document.displayed.occurrences,
        let shown := Html.shownAttributes element.tag element.attributes
        Html.valuesOf "class" shown =
            (element.attributes.get? "class").toList ++ [element.tag] ∧
          ((shown.map Prod.fst).filter (· ≠ ("class" : Text))).Nodup ∧
          (Html.Hooked element.tag shown ↔ element.attributes.get? "class" = none) := by
  have writable := writable_of_parse parsed
  refine ⟨_, Html.readMarkup_renderBody indent writable,
    Html.filterMap_attributes?_traces [] document.children, ?_⟩
  intro element displayed
  have named := Html.named_of_writables [] writable.parts element displayed
  exact ⟨Html.valuesOf_class_shownAttributes element.tag named,
    Html.nodup_filter_shownAttributes element.tag named,
    Html.hooked_shownAttributes_iff element.tag named⟩

/-- An element with a class of its own, and one without inside it. -/
def classedSource : Text := "@titulo class='x' id='y'@@dialogo id='z'@Hi@/dialogo@@/titulo@"

/-- The tree of the source with a class. -/
def classedDocument : Document :=
  ⟨[.element ("titulo" : String) (.ofList [(("class" : String), ("x" : String)),
      (("id" : String), ("y" : String))])
    [.element ("dialogo" : String) (.ofList [(("id" : String), ("z" : String))])
      [.text ("Hi" : String) ⟨1, 42⟩] ⟨1, 26⟩] ⟨1, 1⟩]⟩

/-- The source with a class is parsed. -/
theorem parse_classedSource : parse classedSource = .ok classedDocument := by decide +kernel

/-- The outer element shows two classes, of which its own is the first, and the inner one only its
    tag. -/
theorem renderBody_hooked_iff_classed :
    ∃ events, Html.readMarkup (Html.renderBody 2 classedDocument) = some events ∧
      (events.filterMap Html.Event.attributes?).map (Html.valuesOf "class") =
        ([["x", "titulo"], ["dialogo"]] : List (List Text)) := by
  obtain ⟨events, read, listed, -⟩ := renderBody_hooked_iff parse_classedSource 2
  refine ⟨events, read, ?_⟩
  rw [listed]
  decide

/-- The HTML of a source that is parsed can have a tag that has no proper class, whatever tag it
    should hold. -/
theorem not_hooked_classed :
    ¬ ∀ source document indent, parse source = .ok document →
      ∃ events, Html.readMarkup (Html.renderBody indent document) = some events ∧
        ∀ shown ∈ events.filterMap Html.Event.attributes?, ∃ tag, Html.Hooked tag shown := by
  intro hooked
  obtain ⟨events, read, all⟩ := hooked classedSource classedDocument 2 parse_classedSource
  have computed : Html.readMarkup (Html.renderBody 2 classedDocument) =
      some (Node.traces classedDocument.children) :=
    Html.readMarkup_renderBody 2 (writable_of_parse parse_classedSource)
  rw [computed] at read
  cases read
  obtain ⟨tag, distinct, -⟩ := all
    [(("class" : String), ("x" : String)), (("id" : String), ("y" : String)),
      (("class" : String), ("titulo" : String))] (by decide)
  exact absurd distinct (by decide)

end FlashMarkup
