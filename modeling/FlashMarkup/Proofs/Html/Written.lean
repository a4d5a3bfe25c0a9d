import FlashMarkup.Html.Body
import FlashMarkup.Proofs.Document.Source
import FlashMarkup.Proofs.Html.Markup

/-!
# Reading rendered pieces

Each piece that rendering writes is read as one event, whatever stands behind it: a start tag with
all its attributes, a tag that closes itself, an end tag, a comment. A text is read as one event in
front of markup, that is, if the next character that is not blank is a less-than sign or if there
is none.
-/

namespace FlashMarkup.Html

open Text (Blank EndsRun)

/-- Whether a text can name an element or an attribute. -/
def IsMarkupName (name : Text) : Prop := name ≠ [] ∧ ∀ c ∈ name, isNameChar c = true

instance (name : Text) : Decidable (IsMarkupName name) :=
  have : Decidable (∀ c ∈ name, isNameChar c = true) := List.decidableBAll _ name
  inferInstanceAs (Decidable (name ≠ [] ∧ ∀ c ∈ name, isNameChar c = true))

/-- Every tag is called by a name in HTML. -/
theorem isMarkupName_elementName (tag : Text) : IsMarkupName (elementName tag) := by
  unfold elementName
  split
  next known _ => cases known <;> decide
  next => decide

/-- Every attribute is called by a name in HTML. -/
theorem isMarkupName_attributeName {name : Text} (named : Source.IsAttributeName name) :
    IsMarkupName (attributeName name) := by
  unfold attributeName
  cases renamed : renamedAttributes.lookup name with
  | none =>
    obtain ⟨⟨present, word⟩, -⟩ := named
    refine ⟨present, ?_⟩
    intro c member
    simp [isNameChar, word c member]
  | some other =>
    have all : ∀ entry ∈ renamedAttributes, IsMarkupName entry.2 := by decide
    obtain ⟨before, after, same, -⟩ := List.lookup_eq_some_iff.mp renamed
    exact all (name, other) (by simp [same])

/-- The attributes of an HTML element: those of the element under their HTML names, in order, and
    its tag as the class. -/
def shownAttributes (tag : Text) (attributes : Attributes) : List (Text × Text) :=
  attributes.entries.map (fun (name, value) => (attributeName name, value)) ++
    [(("class" : Text), tag)]

/-- The attributes that are written are those shown. -/
theorem attributesText_eq (tag : Text) (attributes : Attributes) :
    attributesText tag attributes =
      (shownAttributes tag attributes).flatMap fun (name, value) => attributeText name value := by
  simp [attributesText, shownAttributes, List.flatMap_append, List.flatMap_map]

/-- All attributes shown have names. -/
theorem isMarkupName_shownAttributes (tag : Text) {attributes : Attributes}
    (named : ∀ entry ∈ attributes.entries, Source.IsAttributeName entry.1) :
    ∀ pair ∈ shownAttributes tag attributes, IsMarkupName pair.1 := by
  intro pair member
  rcases List.mem_append.mp member with written | hook
  · obtain ⟨entry, inside, rfl⟩ := List.mem_map.mp written
    exact isMarkupName_attributeName (named entry inside)
  · have hookNamed : IsMarkupName ("class" : Text) := by decide
    rwa [List.mem_singleton.mp hook]

/-- A name ends in front of a character that no name contains. -/
theorem endsRun_of_not_isNameChar {c : Char} (ends : isNameChar c = false) (rest : Text) :
    EndsRun isNameChar (c :: rest) := by
  intro d first
  rwa [← Option.some.inj first]

/-- An attribute that is written is read. -/
theorem readAttribute_attributeText {name : Text} (named : IsMarkupName name) (value rest : Text) :
    readAttribute? (attributeText name value ++ rest) = some ((name, value), rest) := by
  have ends : EndsRun isNameChar ('=' :: '"' :: (escapeAttribute value ++ '"' :: rest)) :=
    endsRun_of_not_isNameChar rfl _
  have shape : attributeText name value ++ rest =
      ' ' :: (name ++ '=' :: '"' :: (escapeAttribute value ++ '"' :: rest)) := by
    simp [attributeText]
  have cut := Text.cutAt_single (no_quote_escapeAttribute value) rest
  rw [shape, readAttribute?]
  simp only [Text.takeWhile_run named.2 ends, Text.dropWhile_run named.2 ends, named.1, if_false,
    cut, Option.map_some, unescape_escapeAttribute]

/-- Attributes that are written one after the other are read in order, if no further attribute
    follows. -/
theorem readAttributes_written {pairs : List (Text × Text)}
    (named : ∀ pair ∈ pairs, IsMarkupName pair.1) {rest : Text}
    (ends : readAttribute? rest = none) :
    readAttributes ((pairs.flatMap fun (name, value) => attributeText name value) ++ rest) =
      (pairs, rest) := by
  induction pairs with
  | nil =>
    rw [List.flatMap_nil, List.nil_append, readAttributes.eq_def]
    split
    next => rfl
    next found => rw [ends] at found; contradiction
  | cons pair others ih =>
    obtain ⟨name, value⟩ := pair
    have first := readAttribute_attributeText (named _ List.mem_cons_self) value
      ((others.flatMap fun (name, value) => attributeText name value) ++ rest)
    rw [List.flatMap_cons, List.append_assoc, readAttributes.eq_def]
    split
    next failed => rw [first] at failed; contradiction
    next pair behind found =>
      rw [first] at found
      cases found
      rw [ih fun pair member => named pair (List.mem_cons_of_mem _ member)]

/-- A name ends in front of the attributes of its element, which begin with a space. -/
theorem endsRun_attributesText (tag : Text) (attributes : Attributes) (rest : Text) :
    EndsRun isNameChar (attributesText tag attributes ++ rest) := by
  obtain ⟨entries, distinct⟩ := attributes
  cases entries with
  | nil => exact endsRun_of_not_isNameChar (c := ' ') rfl _
  | cons entry others => exact endsRun_of_not_isNameChar (c := ' ') rfl _

/-- The name and the attributes of a start tag are read up to the end of the tag. -/
theorem read_head (tag : Text) {attributes : Attributes}
    (named : ∀ entry ∈ attributes.entries, Source.IsAttributeName entry.1) {left : Text}
    (ends : readAttribute? left = none) :
    (elementName tag ++ (attributesText tag attributes ++ left)).takeWhile isNameChar =
        elementName tag ∧
      readAttributes
          ((elementName tag ++ (attributesText tag attributes ++ left)).dropWhile isNameChar) =
        (shownAttributes tag attributes, left) := by
  have word := (isMarkupName_elementName tag).2
  have nameEnds := endsRun_attributesText tag attributes left
  rw [Text.takeWhile_run word nameEnds, Text.dropWhile_run word nameEnds, attributesText_eq]
  exact ⟨rfl, readAttributes_written (isMarkupName_shownAttributes tag named) ends⟩

/-- What begins with a name is no comment and no end tag. -/
theorem readMarked_of_isMarkupName {name : Text} (named : IsMarkupName name) (rest : Text) :
    readMarked (name ++ rest) = readStartTag (name ++ rest) := by
  obtain ⟨present, word⟩ := named
  obtain ⟨c, others, rfl⟩ := List.exists_cons_of_ne_nil present
  have letter := word c List.mem_cons_self
  have noMark : c ≠ '!' ∧ c ≠ '/' := by
    constructor
    · rintro rfl
      exact absurd letter (by decide)
    · rintro rfl
      exact absurd letter (by decide)
  rw [List.cons_append, readMarked]
  · intro more same
    exact noMark.1 (List.cons.inj same).1
  · intro more same
    exact noMark.2 (List.cons.inj same).1

/-- A start tag is read as its event, whichever way it ends. -/
theorem readMarkup_opening (tag : Text) {attributes : Attributes}
    (named : ∀ entry ∈ attributes.entries, Source.IsAttributeName entry.1) {left rest : Text}
    {event : Event} (ends : readAttribute? left = none)
    (finished : readTagEnd (elementName tag) (shownAttributes tag attributes) left =
      some (event, rest)) :
    readMarkup (opening tag attributes ++ left) = (readMarkup rest).map (event :: ·) := by
  have elementNamed := isMarkupName_elementName tag
  obtain ⟨name, shown⟩ := read_head tag named ends
  have marked : readMarked (elementName tag ++ (attributesText tag attributes ++ left)) =
      some (event, rest) := by
    rw [readMarked_of_isMarkupName elementNamed]
    simp only [readStartTag, name, shown, elementNamed.1, if_false, finished]
  have shape : opening tag attributes ++ left =
      '<' :: (elementName tag ++ (attributesText tag attributes ++ left)) := by
    simp [opening]
  rw [shape, readMarkup_of_readMarked marked]

/-- An end tag is read as its event. -/
theorem readMarkup_closing (tag rest : Text) :
    readMarkup (closing tag ++ rest) = (readMarkup rest).map (.stop (elementName tag) :: ·) := by
  obtain ⟨present, word⟩ := isMarkupName_elementName tag
  have ends : EndsRun isNameChar ('>' :: '\n' :: rest) := endsRun_of_not_isNameChar rfl _
  have shape : closing tag ++ rest = '<' :: '/' :: (elementName tag ++ '>' :: '\n' :: rest) := by
    simp [closing]
  have marked : readMarked ('/' :: (elementName tag ++ '>' :: '\n' :: rest)) =
      some (.stop (elementName tag), '\n' :: rest) := by
    simp [readMarked, readEndTag, Text.takeWhile_run word ends, Text.dropWhile_run word ends,
      present]
  rw [shape, readMarkup_of_readMarked marked, readMarkup_blank rfl]

/-- A comment is read as its event. No greater-than sign is left in it, so nothing but its own
    delimiter closes it. -/
theorem readMarkup_comment (content rest : Text) :
    readMarkup (commentLine [] content ++ rest) =
      (readMarkup rest).map (.comment content.trim :: ·) := by
  let inside : Text := ' ' :: escapeText content.trim ++ [' ']
  have shape : commentLine [] content ++ rest =
      '<' :: '!' :: '-' :: '-' :: (inside ++ ['-', '-', '>'] ++ '\n' :: rest) := by
    simp [commentLine, inside]
  have outside : ¬ ['-', '-', '>'] <:+: inside ++ ['-', '-', '>'].dropLast := by
    intro occurs
    have bracket : '>' ∈ inside ++ ['-', '-'] := occurs.subset (by simp)
    simp [inside, (no_bracket_escapeText content.trim).2] at bracket
  have cut : Text.cutAt? ['-', '-', '>'] (inside ++ ['-', '-', '>'] ++ '\n' :: rest) =
      some (inside, '\n' :: rest) :=
    (Text.cutAt_eq_some_iff (List.cons_ne_nil _ _)).mpr ⟨rfl, outside⟩
  have space : Blank [' '] := Text.blank_singleton rfl
  have resolved : (unescape inside).trim = content.trim := by
    have read : unescape inside = [' '] ++ content.trim ++ [' '] := by
      have referred := unescape_escapeText content.trim [' ']
      have spaced := unescape_blanks space (escapeText content.trim ++ [' '])
      rwa [referred, unescape_of_blank space, ← List.append_assoc] at spaced
    rw [read, Text.trim_append_blanks space space, Text.trim_trim]
  have marked : readMarked ('!' :: '-' :: '-' :: (inside ++ ['-', '-', '>'] ++ '\n' :: rest)) =
      some (.comment content.trim, '\n' :: rest) := by
    simp only [readMarked, readComment, cut, Option.map_some, resolved]
  rw [shape, readMarkup_of_readMarked marked, readMarkup_blank rfl]

/-- Whether the first character that is not blank is a less-than sign, if there is one. -/
def StartsMarkup (source : Text) : Prop := ∀ c ∈ source.trimStart.head?, c = '<'

/-- A text is read as its event in front of markup. -/
theorem readMarkup_text {content : Text} (visible : ¬ Blank content) {rest : Text}
    (starts : StartsMarkup rest) :
    readMarkup (escapeText content ++ rest) =
      (readMarkup rest).map (.text content.trim :: ·) := by
  let pad := rest.takeWhile Text.isBlank
  let left := rest.dropWhile Text.isBlank
  have restSplit : rest = pad ++ left := List.takeWhile_append_dropWhile.symm
  have padBlank : Blank pad := Text.blank_takeWhile rest
  have unmarked : ∀ c ∈ escapeText content ++ pad, c ≠ '<' ∧ c ≠ '>' := by
    intro c member
    rcases List.mem_append.mp member with written | blank
    · obtain ⟨noLess, noGreater⟩ := no_bracket_escapeText content
      constructor
      · rintro rfl
        exact noLess written
      · rintro rfl
        exact noGreater written
    · exact ne_bracket_of_isBlank (padBlank c blank)
  have shown : ¬ Blank (escapeText content ++ pad) := by
    intro blank
    apply visible
    apply blank_of_escapeText
    intro c member
    exact blank c (List.mem_append_left pad member)
  have resolved : (unescape (escapeText content ++ pad)).trim = content.trim := by
    rw [unescape_escapeText, unescape_of_blank padBlank]
    exact Text.trim_append_blanks Text.blank_nil padBlank content
  have behindPad : readMarkup rest = readMarkup left := by
    rw [restSplit, readMarkup_blanks padBlank]
  have ends : ∀ c ∈ left.head?, c = '<' := starts
  rw [behindPad, restSplit, ← List.append_assoc, readMarkup_of_run unmarked shown ends, resolved]

end FlashMarkup.Html
