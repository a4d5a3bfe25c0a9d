import FlashMarkup.Html.Page
import FlashMarkup.Proofs.Html.Rendering

/-!
# Authors cannot add markup

The marks of a page are its angle brackets, each less-than sign with what follows it up to the next
blank or bracket: the name of a tag, a slash and the name of an end tag, or the beginning of a
comment. They are found by looking at the characters only, also inside values, texts, the style
sheet and the script.

The shape of a document is what is left of it without its texts, its comments and the values of its
attributes. The marks of a page are computed from the shape of its document alone, so nothing that
an author writes into a text, a comment or a value adds a mark, takes one away or changes one, and
neither do the options of the page.
-/

namespace FlashMarkup

namespace Html

/-- An angle bracket of a page. A less-than sign comes with the name behind it. -/
inductive Mark where
  | less (name : Text)
  | greater
deriving DecidableEq, Repr

/-- The bracket itself. -/
def Mark.char : Mark → Char
  | .less _ => '<'
  | .greater => '>'

/-- Whether a character is an angle bracket. -/
def isBracket (c : Char) : Bool := c == '<' || c == '>'

/-- A character that is neither angle bracket is no bracket. -/
theorem isBracket_eq_false_iff {c : Char} : isBracket c = false ↔ c ≠ '<' ∧ c ≠ '>' := by
  rw [isBracket, Bool.or_eq_false_iff, beq_eq_false_iff_ne, beq_eq_false_iff_ne]

/-- Whether a text has no angle bracket. -/
def Unmarked (content : Text) : Prop := ∀ c ∈ content, isBracket c = false

/-- A text is checked for angle brackets character by character. -/
theorem unmarked_of_all {content : Text} (checked : content.all (!isBracket ·) = true) :
    Unmarked content := by
  intro c member
  simpa using List.all_eq_true.mp checked c member

/-- Whether a character belongs to the name behind a less-than sign. -/
def inMarkName (c : Char) : Bool := !isBracket c && !Text.isBlank c

/-- The marks of a text from the left to the right. -/
def marks : Text → List Mark
  | [] => []
  | c :: rest =>
    if c = '<' then .less (rest.takeWhile inMarkName) :: marks rest
    else if c = '>' then .greater :: marks rest
    else marks rest

/-- A greater-than sign is a mark. -/
theorem marks_greater (rest : Text) : marks ('>' :: rest) = .greater :: marks rest := rfl

/-- The marks of a text are its angle brackets, in order. -/
theorem marks_map_char (source : Text) :
    (marks source).map Mark.char = source.filter isBracket := by
  induction source with
  | nil => rfl
  | cons c rest ih =>
    rw [marks]
    by_cases less : c = '<'
    · subst less
      rw [if_pos rfl, List.filter_cons_of_pos rfl, List.map_cons, ih]
      rfl
    by_cases greater : c = '>'
    · subst greater
      rw [if_neg less, if_pos rfl, List.filter_cons_of_pos rfl, List.map_cons, ih]
      rfl
    have plain := isBracket_eq_false_iff.mpr ⟨less, greater⟩
    rw [if_neg less, if_neg greater, List.filter_cons_of_neg (by simp [plain]), ih]

/-- Marks are found in front of and behind the end of a name separately. -/
theorem marks_append (front : Text) {rest : Text} (ends : Text.EndsRun inMarkName rest) :
    marks (front ++ rest) = marks front ++ marks rest := by
  have taken (others : Text) : (others ++ rest).takeWhile inMarkName =
      others.takeWhile inMarkName := by
    rw [List.takeWhile_append]
    split
    next whole =>
      rw [Text.takeWhile_of_endsRun ends, List.append_nil]
      exact ((List.takeWhile_prefix _).eq_of_length whole).symm
    next => rfl
  induction front with
  | nil => rfl
  | cons c others ih =>
    rw [List.cons_append, marks, marks, taken, ih]
    split_ifs <;> rfl

/-- Whether a piece has the given marks in front of any text. -/
def MarkedBy (piece : Text) (found : List Mark) : Prop :=
  ∀ rest, marks (piece ++ rest) = found ++ marks rest

/-- Two pieces one behind the other have the marks of both. -/
theorem MarkedBy.append {first second : Text} {found others : List Mark}
    (firstMarked : MarkedBy first found) (secondMarked : MarkedBy second others) :
    MarkedBy (first ++ second) (found ++ others) := by
  intro rest
  rw [List.append_assoc, firstMarked, secondMarked, List.append_assoc]

/-- A piece without angle brackets has no marks. -/
theorem Unmarked.markedBy {piece : Text} (unmarked : Unmarked piece) : MarkedBy piece [] := by
  intro rest
  induction piece with
  | nil => rfl
  | cons c others ih =>
    obtain ⟨plain, behind⟩ := List.forall_mem_cons.mp unmarked
    obtain ⟨noLess, noGreater⟩ := isBracket_eq_false_iff.mp plain
    rw [List.cons_append, marks, if_neg noLess, if_neg noGreater]
    exact ih behind

/-- A less-than sign with a name is one mark where the name ends. -/
theorem marks_less {name rest : Text} (named : ∀ c ∈ name, inMarkName c = true)
    (ends : Text.EndsRun inMarkName rest) :
    marks ('<' :: (name ++ rest)) = .less name :: marks rest := by
  have unmarked : Unmarked name := by
    intro c member
    have letter := named c member
    rw [inMarkName, Bool.and_eq_true, Bool.not_eq_true'] at letter
    exact letter.1
  rw [marks, if_pos rfl, Text.takeWhile_run named ends, unmarked.markedBy]
  rfl

/-- A piece that ends with a blank or a greater-than sign has its own marks in front of any text. -/
theorem markedBy_of_ended {piece : Text} {found : List Mark} {c : Char}
    (last : piece.getLast? = some c) (ended : inMarkName c = false ∧ c ≠ '<')
    (same : marks piece = found) : MarkedBy piece found := by
  obtain ⟨noName, noLess⟩ := ended
  obtain ⟨front, rfl⟩ := List.getLast?_eq_some_iff.mp last
  have border (more : Text) : Text.EndsRun inMarkName (c :: more) := by
    intro d first
    rwa [← Option.some.inj first]
  have alone (more : Text) : marks (c :: more) = marks [c] ++ marks more := by
    rw [marks, marks, if_neg noLess, if_neg noLess]
    split <;> rfl
  intro rest
  rw [← same, List.append_assoc, List.singleton_append, marks_append front (border rest),
    marks_append front (border []), alone rest, List.append_assoc]

/-- A line, up to its line break, has its own marks in front of any text. -/
theorem markedBy_line {line : Text} {found : List Mark} (last : line.getLast? = some '\n')
    (same : marks line = found) : MarkedBy line found :=
  markedBy_of_ended last (by decide) same

end Html

/-- What is left of a node without its texts and values: the kinds of nodes, tags and names of
    attributes. -/
inductive Shape where
  | element (tag : Text) (names : List Text) (children : List Shape)
  | text
  | comment

namespace Node

mutual

/-- The shape of a node. -/
def shape : Node → Shape
  | .element tag attributes children _ => .element tag attributes.names (shapes children)
  | .text _ _ => .text
  | .comment _ _ => .comment

/-- The shapes of several nodes. -/
def shapes : List Node → List Shape
  | [] => []
  | node :: rest => shape node :: shapes rest

end

end Node

/-- The shape of a document. -/
def Document.shape (document : Document) : List Shape := Node.shapes document.children

namespace Shape

open Html (Mark)

mutual

/-- The marks of a node of this shape. -/
def marks : Shape → List Mark
  | .element tag _ children =>
    if tag = Html.imageTag then [.less (Html.elementName tag), .greater]
    else
      [.less (Html.elementName tag), .greater] ++ marksOf children ++
        [.less ('/' :: Html.elementName tag), .greater]
  | .text => []
  | .comment => [.less "!--", .greater]

/-- The marks of nodes of these shapes. -/
def marksOf : List Shape → List Mark
  | [] => []
  | shape :: rest => marks shape ++ marksOf rest

end

end Shape

namespace Html

/-- No angle bracket is left in an escaped text. -/
theorem unmarked_escapeText (content : Text) : Unmarked (escapeText content) := by
  obtain ⟨noLess, noGreater⟩ := no_bracket_escapeText content
  intro c member
  rw [isBracket_eq_false_iff]
  constructor
  · rintro rfl
    exact noLess member
  · rintro rfl
    exact noGreater member

/-- No angle bracket is left in an escaped value. -/
theorem unmarked_escapeAttribute (value : Text) : Unmarked (escapeAttribute value) := by
  intro c member
  obtain ⟨d, inside, written⟩ := List.mem_flatMap.mp member
  split at written
  next =>
    have reference : Unmarked "&quot;" := unmarked_of_all (by decide)
    exact reference c written
  next => exact List.mem_singleton.mp written ▸ unmarked_escapeText value d inside

/-- No blank is an angle bracket. -/
theorem unmarked_of_blank {run : Text} (blank : Text.Blank run) : Unmarked run :=
  fun c member => isBracket_eq_false_iff.mpr (ne_bracket_of_isBlank (blank c member))

/-- A character of a name in markup is no angle bracket. -/
theorem isBracket_of_isNameChar {c : Char} (letter : isNameChar c = true) :
    isBracket c = false := by
  rw [isBracket_eq_false_iff]
  constructor
  · rintro rfl
    exact absurd letter (by decide)
  · rintro rfl
    exact absurd letter (by decide)

/-- A name in markup belongs to the name of a mark. -/
theorem inMarkName_of_isMarkupName {name : Text} (named : IsMarkupName name) :
    ∀ c ∈ name, inMarkName c = true := by
  intro c member
  have letter := named.2 c member
  have noBracket := isBracket_of_isNameChar letter
  have visible : Text.isBlank c = false := by
    rw [isNameChar, Bool.or_eq_true, beq_iff_eq] at letter
    rcases letter with word | rfl
    · exact Lexeme.isBlank_of_isWordChar word
    · decide
  rw [inMarkName, noBracket, visible]
  rfl

/-- An attribute has no marks. -/
theorem unmarked_attributeText {name : Text} (named : IsMarkupName name) (value : Text) :
    Unmarked (attributeText name value) := by
  intro c member
  simp only [attributeText, List.mem_append, or_assoc] at member
  rcases member with space | letter | equals | inside | quote
  · rw [List.mem_singleton.mp space]
    decide
  · exact isBracket_of_isNameChar (named.2 c letter)
  · have sign : Unmarked "=\"" := unmarked_of_all (by decide)
    exact sign c equals
  · exact unmarked_escapeAttribute value c inside
  · rw [List.mem_singleton.mp quote]
    decide

/-- The attributes of an element have no marks. -/
theorem unmarked_attributesText (tag : Text) {attributes : Attributes}
    (named : ∀ entry ∈ attributes.entries, Source.IsAttributeName entry.1) :
    Unmarked (attributesText tag attributes) := by
  intro c member
  rw [attributesText_eq] at member
  obtain ⟨pair, shown, written⟩ := List.mem_flatMap.mp member
  have name := isMarkupName_shownAttributes tag named pair shown
  exact unmarked_attributeText name pair.2 c written

/-- A start tag, up to its closing bracket, is marked by the name of its element. -/
theorem markedBy_opening (tag : Text) {attributes : Attributes}
    (named : ∀ entry ∈ attributes.entries, Source.IsAttributeName entry.1) :
    MarkedBy (opening tag attributes) [.less (elementName tag)] := by
  intro rest
  have ends : Text.EndsRun inMarkName (attributesText tag attributes ++ rest) := by
    obtain ⟨entries, distinct⟩ := attributes
    cases entries with
    | nil => rintro c ⟨⟩; rfl
    | cons entry others => rintro c ⟨⟩; rfl
  have shape : opening tag attributes ++ rest =
      '<' :: (elementName tag ++ (attributesText tag attributes ++ rest)) := by
    simp [opening]
  rw [shape, marks_less (inMarkName_of_isMarkupName (isMarkupName_elementName tag)) ends,
    (unmarked_attributesText tag named).markedBy]
  rfl

/-- An end tag is marked by a slash and the name of its element. -/
theorem markedBy_closing (tag : Text) :
    MarkedBy (closing tag) [.less ('/' :: elementName tag), .greater] := by
  intro rest
  have slashed : ∀ c ∈ '/' :: elementName tag, inMarkName c = true :=
    List.forall_mem_cons.mpr
      ⟨rfl, inMarkName_of_isMarkupName (isMarkupName_elementName tag)⟩
  have ends : Text.EndsRun inMarkName ('>' :: '\n' :: rest) := by
    rintro c ⟨⟩
    rfl
  have shape : closing tag ++ rest = '<' :: ('/' :: elementName tag ++ '>' :: '\n' :: rest) := by
    simp [closing]
  rw [shape, marks_less slashed ends]
  rfl

/-- A comment is marked by its opening and the bracket that ends it. -/
theorem markedBy_comment (content : Text) :
    MarkedBy (commentLine [] content) [.less "!--", .greater] := by
  intro rest
  have ends : Text.EndsRun inMarkName (' ' :: (escapeText content.trim ++ (" -->\n" ++ rest))) := by
    rintro c ⟨⟩
    rfl
  have shape : commentLine [] content ++ rest =
      '<' :: ("!--" ++ ' ' :: (escapeText content.trim ++ (" -->\n" ++ rest))) := by
    simp [commentLine]
  have inside : MarkedBy (' ' :: escapeText content.trim) [] :=
    Unmarked.markedBy (List.forall_mem_cons.mpr ⟨rfl, unmarked_escapeText content.trim⟩)
  have named : ∀ c ∈ ("!--" : Text), inMarkName c = true :=
    List.all_eq_true.mp (by decide)
  rw [shape, marks_less named ends, ← List.cons_append, inside]
  rfl

/-- A text on a line of its own has no marks. -/
theorem markedBy_textLine (width : Nat) (content : Text) :
    MarkedBy (textLine (Text.spaces width) content) [] := by
  have padded := (unmarked_of_blank (Text.blank_spaces width)).markedBy
  have written := (unmarked_escapeText content.trim).markedBy
  have broken := (unmarked_of_blank Text.blank_newline).markedBy
  unfold textLine
  dsimp only
  split
  next => exact fun _ => rfl
  next => exact (padded.append written).append broken

/-- Behind a start tag stand the marks of the children and of the end tag. -/
theorem marks_contentBefore (indent level : Nat) (tag rest : Text) {children : List Node}
    (inside : ∀ after, marks (nodesBefore indent (level + 1) after children) =
      Shape.marksOf (Node.shapes children) ++ marks after) :
    marks (contentBefore indent level tag rest children) =
      Shape.marksOf (Node.shapes children) ++
        (.less ('/' :: elementName tag) :: .greater :: marks rest) := by
  have closed := markedBy_closing tag rest
  unfold contentBefore
  split
  next => exact closed
  next content position =>
    rw [(unmarked_escapeText content).markedBy, closed]
    rfl
  next =>
    rw [← List.singleton_append, (unmarked_of_blank Text.blank_newline).markedBy, List.nil_append,
      inside, (unmarked_of_blank (Text.blank_spaces _)).markedBy, closed]
    rfl

/-- The marks of rendered nodes are those of their shapes, at any indentation and in front of any
    text.

    Recurse on the nodes. Nothing that is written from a text or a value has a mark, so only tags
    and comments count. -/
theorem marks_nodesBefore (indent level : Nat) (after : Text) {nodes : List Node}
    (writable : Node.Writables nodes) :
    marks (nodesBefore indent level after nodes) =
      Shape.marksOf (Node.shapes nodes) ++ marks after := by
  have pad := (unmarked_of_blank (Text.blank_spaces (indent * level))).markedBy
  match nodes with
  | [] => rfl
  | .text content position :: siblings =>
    have later := marks_nodesBefore indent level after writable.2.2
    rw [nodesBefore, nodeBefore, markedBy_textLine, later]
    rfl
  | .comment content position :: siblings =>
    have later := marks_nodesBefore indent level after writable.2.2
    rw [nodesBefore_comment, pad, markedBy_comment, later]
    rfl
  | .element tag attributes children position :: siblings =>
    obtain ⟨⟨-, valid, inside⟩, -, others⟩ := writable
    have named : ∀ entry ∈ attributes.entries, Source.IsAttributeName entry.1 :=
      fun entry member => (valid entry member).1
    have later := marks_nodesBefore indent level after others
    rw [nodesBefore_element, pad, markedBy_opening tag named]
    by_cases image : tag = imageTag
    · have ending (rest : Text) : marks (' ' :: '/' :: '>' :: '\n' :: rest) =
          .greater :: marks rest := rfl
      rw [if_pos image, ending, later]
      simp [Node.shapes, Node.shape, Shape.marksOf, Shape.marks, image]
    · have content := marks_contentBefore indent level tag
        (nodesBefore indent level after siblings) fun behind =>
          marks_nodesBefore indent (level + 1) behind inside
      rw [if_neg image, marks_greater, content, later]
      simp [Node.shapes, Node.shape, Shape.marksOf, Shape.marks, image]

/-- A piece that is followed by one without angle brackets has the same marks. -/
theorem MarkedBy.unmarked {first second : Text} {found : List Mark}
    (firstMarked : MarkedBy first found) (secondUnmarked : Unmarked second) :
    MarkedBy (first ++ second) found := by
  have both := firstMarked.append secondUnmarked.markedBy
  rwa [List.append_nil] at both

/-- Any content may stand in front of an indented tag: it has its own marks there. -/
theorem MarkedBy.embed {front last : Text} {found others : List Mark}
    (frontMarked : MarkedBy front found) (content : Text) (width : Nat)
    (lastMarked : MarkedBy last others) (starts : last.head? = some '<') :
    MarkedBy (front ++ content ++ Text.spaces width ++ last)
      (found ++ marks content ++ others) := by
  obtain ⟨more, rfl⟩ := List.head?_eq_some_iff.mp starts
  intro rest
  have ends : Text.EndsRun inMarkName (Text.spaces width ++ ('<' :: more ++ rest)) := by
    cases width with
    | zero => rintro c ⟨⟩; rfl
    | succ wider => rintro c ⟨⟩; rfl
  have split : front ++ content ++ Text.spaces width ++ '<' :: more ++ rest =
      front ++ (content ++ (Text.spaces width ++ ('<' :: more ++ rest))) := by simp
  rw [split, frontMarked, marks_append content ends,
    (unmarked_of_blank (Text.blank_spaces width)).markedBy, lastMarked]
  simp

/-- Behind a piece with known marks, any content has its own up to where a name ends. -/
theorem MarkedBy.enclose {front last : Text} {found : List Mark}
    (frontMarked : MarkedBy front found) (content : Text) (ends : Text.EndsRun inMarkName last) :
    marks (front ++ content ++ last) = found ++ marks content ++ marks last := by
  rw [marks_append _ ends, frontMarked]

/-- The marks of a tag. -/
def tagMarks (name : Text) : List Mark := [.less name, .greater]

/-- The marks of the head of a page. -/
def headMarks : List Mark :=
  tagMarks "head" ++ tagMarks "meta" ++ tagMarks "meta" ++ tagMarks "title" ++ tagMarks "/title" ++
    tagMarks "style" ++ marks stylesheet ++ tagMarks "/style" ++
    tagMarks "script" ++ marks script ++ (tagMarks "/script" ++ tagMarks "/head")

/-- The marks of a page whose nodes have the given ones. -/
def pageMarks (inside : List Mark) : List Mark :=
  tagMarks "!DOCTYPE" ++ tagMarks "html" ++ headMarks ++ tagMarks "body" ++ inside ++
    (tagMarks "/body" ++ tagMarks "/html")

/-- The head of a page has the same marks under all options. -/
theorem markedBy_renderHead (options : Options) : MarkedBy (renderHead options) headMarks := by
  have unit := unmarked_of_blank (Text.blank_spaces options.indent)
  have first : MarkedBy "<head>\n" (tagMarks "head") := markedBy_line rfl (by decide)
  have encoding : MarkedBy "<meta charset=\"UTF-8\">\n" (tagMarks "meta") :=
    markedBy_line rfl (by decide)
  have viewport : MarkedBy
      "<meta name=\"viewport\" content=\"width=device-width, initial-scale=1.0\">\n"
      (tagMarks "meta") :=
    markedBy_line (by decide +kernel) (by decide +kernel)
  have titleStart : MarkedBy "<title>" (tagMarks "title") :=
    markedBy_of_ended (c := '>') rfl (by decide) (by decide)
  have title := unmarked_escapeText options.title
  have titleEnd : MarkedBy "</title>\n" (tagMarks "/title") := markedBy_line rfl (by decide)
  have styleStart : MarkedBy "<style>\n" (tagMarks "style") := markedBy_line rfl (by decide)
  have styleEnd : MarkedBy "</style>\n" (tagMarks "/style") := markedBy_line rfl (by decide)
  have scriptStart : MarkedBy "<script>\n" (tagMarks "script") := markedBy_line rfl (by decide)
  have scriptEnd : MarkedBy "</script>\n</head>\n" (tagMarks "/script" ++ tagMarks "/head") :=
    markedBy_line rfl (by decide)
  have upToTitle := ((((first.unmarked unit).append encoding).unmarked unit).append
    viewport).unmarked unit
  have upToStyle := (((upToTitle.append titleStart).unmarked title).append titleEnd).unmarked unit
  have upToScript := ((upToStyle.append styleStart).embed stylesheet options.indent styleEnd
    rfl).unmarked unit
  exact (upToScript.append scriptStart).embed script options.indent scriptEnd rfl

/-- The marks of a page are computed from the shape of its document, whatever its options are. -/
theorem marks_renderPage (options : Options) {document : Document} (writable : document.Writable) :
    marks (renderPage options document) = pageMarks (Shape.marksOf document.shape) := by
  have language : MarkedBy "<!DOCTYPE html>\n<html lang=\""
      (tagMarks "!DOCTYPE" ++ [.less "html"]) := by
    have upToName : MarkedBy "<!DOCTYPE html>\n<html " (tagMarks "!DOCTYPE" ++ [.less "html"]) :=
      markedBy_of_ended (c := ' ') rfl (by decide) (by decide)
    have behind : Unmarked "lang=\"" := unmarked_of_all (by decide)
    exact upToName.unmarked behind
  have value := unmarked_escapeAttribute options.lang
  have languageEnd : MarkedBy "\">\n" [.greater] := markedBy_line rfl (by decide)
  have bodyStart : MarkedBy "<body>\n" (tagMarks "body") := markedBy_line rfl (by decide)
  have bodyEnd : marks "</body>\n</html>\n" = tagMarks "/body" ++ tagMarks "/html" := by decide
  have border : Text.EndsRun inMarkName "</body>\n</html>\n" := by
    rintro c ⟨⟩
    rfl
  have front := (((language.unmarked value).append languageEnd).append
    (markedBy_renderHead options)).append bodyStart
  have nodes : marks (renderNodes options.indent 1 document.children) =
      Shape.marksOf document.shape := by
    rw [renderNodes, marks_nodesBefore options.indent 1 [] writable.parts]
    exact List.append_nil _
  have whole := front.enclose (renderNodes options.indent 1 document.children) border
  rw [nodes, bodyEnd] at whole
  exact whole

/-- Nothing that an author writes into a text, a comment or a value changes the markup of a page: the
    pages of two parsed documents of the same shape have the same angle brackets in the same order,
    and behind each less-than sign stands the same name of a tag, name of an end tag or beginning of
    a comment. The language, the title and the indentation of the pages do not matter either. What
    these marks are is said by the shape: the tags of the frame, and inside the body those of the
    elements and comments, in document order. -/
theorem same_marks_of_same_shape {source other : Text} {first second : Document}
    (parsed : parse source = .ok first) (otherParsed : parse other = .ok second)
    (same : first.shape = second.shape) (options others : Options) :
    (renderPage options first).filter isBracket = (renderPage others second).filter isBracket ∧
      marks (renderPage options first) = marks (renderPage others second) ∧
      marks (renderPage options first) = pageMarks (Shape.marksOf first.shape) := by
  have firstMarks := marks_renderPage options (writable_of_parse parsed)
  have secondMarks := marks_renderPage others (writable_of_parse otherParsed)
  have marked : marks (renderPage options first) = marks (renderPage others second) := by
    rw [firstMarks, secondMarks, same]
  refine ⟨?_, marked, firstMarks⟩
  rw [← marks_map_char, ← marks_map_char, marked]

/-- A source of the same shape as the one that tries to be markup, with harmless words. -/
def plainSource : Text :=
  "@velocista nombre='Barry' @titulo Hi @/titulo ## note ## @imagen x @/imagen end @/velocista "

/-- The tree of the source with harmless words. -/
def plainDocument : Document :=
  ⟨[.element ("velocista" : String) (.ofList [(("nombre" : String), ("Barry" : String))])
    [.element ("titulo" : String) .empty [.text ("Hi " : String) ⟨1, 35⟩] ⟨1, 27⟩,
      .comment (" note " : String) ⟨1, 47⟩,
      .element ("imagen" : String) .empty [.text ("x " : String) ⟨1, 66⟩] ⟨1, 58⟩,
      .text ("end " : String) ⟨1, 77⟩] ⟨1, 1⟩]⟩

/-- Options that try to be markup. -/
def markedOptions : Options := { lang := "\"><script>", title := "</title><b>" }

/-- The two sources are parsed and have the same shape, and their pages have the same marks, the one
    under options that try to be markup and the other under those that are usual. -/
theorem same_marks_of_same_shape_marked :
    parse markedSource = .ok markedDocument ∧ parse plainSource = .ok plainDocument ∧
      markedDocument.shape = plainDocument.shape ∧
      marks (renderPage markedOptions markedDocument) = marks (renderPage {} plainDocument) := by
  have parsed : parse markedSource = .ok markedDocument := by decide +kernel
  have otherParsed : parse plainSource = .ok plainDocument := by decide +kernel
  have same : markedDocument.shape = plainDocument.shape := rfl
  exact ⟨parsed, otherParsed, same, (same_marks_of_same_shape parsed otherParsed same _ _).2.1⟩

end Html

end FlashMarkup
