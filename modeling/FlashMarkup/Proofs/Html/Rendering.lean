import FlashMarkup.Proofs.Compile.RoundTrip
import FlashMarkup.Proofs.Html.Written
import Mathlib.Data.List.Basic

/-!
# Reading a rendered tree

The markup of a tree is read as the events of the tree in document order, at any indentation. The
invariant of the walk over a tree is that what stands behind a list of nodes starts markup: then
every text is read as one event of its own. Two neighbouring texts would be read as one, but
parsing never gives such a tree.
-/

namespace FlashMarkup

open Html (Event)

namespace Node

mutual

/-- What is met when a node is walked through in document order. An image has no content. -/
def trace : Node → List Event
  | .element tag attributes children _ =>
    if tag = Html.imageTag then
      [.selfClosing (Html.elementName tag) (Html.shownAttributes tag attributes)]
    else
      .start (Html.elementName tag) (Html.shownAttributes tag attributes) ::
        (traces children ++ [.stop (Html.elementName tag)])
  | .text content _ => [.text content.trim]
  | .comment content _ => [.comment content.trim]

/-- What is met when several nodes are walked through. -/
def traces : List Node → List Event
  | [] => []
  | node :: rest => trace node ++ traces rest

end

end Node

namespace Html

open Text (Blank)

/-- Whether every end tag closes the last start tag that is still open, the names of which are
    given, and none is open in the end. -/
def Nested (opened : List Text) : List Event → Prop
  | [] => opened = []
  | .start name _ :: rest => Nested (name :: opened) rest
  | .stop name :: rest =>
    match opened with
    | [] => False
    | innermost :: outer => innermost = name ∧ Nested outer rest
  | .selfClosing _ _ :: rest => Nested opened rest
  | .text _ :: rest => Nested opened rest
  | .comment _ :: rest => Nested opened rest

/-- Walking through nodes opens nothing that it does not close, and closes nothing that was open
    before. -/
theorem nested_traces_append (nodes : List Node) (opened : List Text) (rest : List Event) :
    Nested opened (Node.traces nodes ++ rest) ↔ Nested opened rest := by
  match nodes with
  | [] => rfl
  | .text content position :: siblings =>
    exact nested_traces_append siblings opened rest
  | .comment content position :: siblings =>
    exact nested_traces_append siblings opened rest
  | .element tag attributes children position :: siblings =>
    have later := nested_traces_append siblings opened rest
    by_cases image : tag = imageTag
    · simpa [Node.traces, Node.trace, image, Nested] using later
    · have inside := nested_traces_append children (elementName tag :: opened)
        (.stop (elementName tag) :: (Node.traces siblings ++ rest))
      simpa [Node.traces, Node.trace, image, Nested, inside] using later

/-- What is written behind a start tag: the children on the same line if there is nothing or one
    text, else on lines of their own, and the end tag in either case. -/
def contentBefore (indent level : Nat) (tag rest : Text) : List Node → Text
  | [] => closing tag ++ rest
  | [.text content _] => escapeText content ++ (closing tag ++ rest)
  | children =>
    '\n' :: nodesBefore indent (level + 1) (Text.spaces (indent * level) ++ (closing tag ++ rest))
      children

/-- An element is written as its indentation, its start tag and what stands behind. -/
theorem nodesBefore_element (indent level : Nat) (after tag : Text) (attributes : Attributes)
    (children siblings : List Node) (position : Position) :
    nodesBefore indent level after (.element tag attributes children position :: siblings) =
      Text.spaces (indent * level) ++ (opening tag attributes ++
        if tag = imageTag then ' ' :: '/' :: '>' :: '\n' :: nodesBefore indent level after siblings
        else '>' :: contentBefore indent level tag (nodesBefore indent level after siblings)
          children) := by
  rw [nodesBefore, nodeBefore.eq_def]
  dsimp only
  split
  next => simp
  next =>
    rw [contentBefore.eq_def, List.append_assoc, List.append_assoc]
    rfl

/-- A less-than sign behind blanks starts markup. -/
theorem startsMarkup_of_blanks {pad : Text} (blank : Blank pad) (rest : Text) :
    StartsMarkup (pad ++ '<' :: rest) := by
  intro c first
  have ends : Text.EndsRun Text.isBlank ('<' :: rest) := by
    intro d head
    rw [← Option.some.inj head]
    rfl
  rw [Text.trimStart, Text.dropWhile_run blank ends] at first
  exact (Option.some.inj first).symm

/-- The end of the markup starts markup: no text can go on behind it. -/
theorem startsMarkup_nil : StartsMarkup [] := by
  intro c first
  contradiction

/-- The markup of the siblings behind a text starts markup, if the text may stand in front of
    them. -/
theorem startsMarkup_nodesBefore (indent level : Nat) {content : Text} {position : Position}
    {siblings : List Node}
    (neighbours : ∀ next ∈ siblings.head?, Node.MayPrecede (.text content position) next)
    {after : Text} (starts : StartsMarkup after) :
    StartsMarkup (nodesBefore indent level after siblings) := by
  have pad := Text.blank_spaces (indent * level)
  cases siblings with
  | nil => exact starts
  | cons node rest =>
    cases node with
    | text => exact (neighbours _ rfl).elim
    | comment =>
      simp only [nodesBefore, nodeBefore, commentLine, List.append_assoc]
      exact startsMarkup_of_blanks pad _
    | element =>
      rw [nodesBefore_element, opening]
      exact startsMarkup_of_blanks pad _

/-- A text between tags is not blank. -/
theorem not_blank_of_isPlain {content : Text} (plain : Source.IsPlain content) :
    ¬ Blank content := by
  obtain ⟨c, others, rfl⟩ := List.exists_cons_of_ne_nil plain.present
  intro blank
  have visible := (plain.begins c rfl).1
  rw [blank c List.mem_cons_self] at visible
  contradiction

/-- A text that is not blank is written trimmed on a line of its own. -/
theorem nodesBefore_text (indent level : Nat) (after : Text) {content : Text}
    (visible : ¬ Blank content) (position : Position) (siblings : List Node) :
    nodesBefore indent level after (.text content position :: siblings) =
      Text.spaces (indent * level) ++ (escapeText content.trim ++
        (['\n'] ++ nodesBefore indent level after siblings)) := by
  have present : content.trim ≠ [] := by
    rwa [Ne, Text.trim_eq_nil_iff]
  rw [nodesBefore, nodeBefore.eq_def]
  simp [textLine, present]

/-- A comment is written trimmed on a line of its own. -/
theorem nodesBefore_comment (indent level : Nat) (after content : Text) (position : Position)
    (siblings : List Node) :
    nodesBefore indent level after (.comment content position :: siblings) =
      Text.spaces (indent * level) ++ (commentLine [] content ++
        nodesBefore indent level after siblings) := by
  rw [nodesBefore, nodeBefore.eq_def]
  simp [commentLine]

/-- What is written behind a start tag is read as the children and the end tag, if the children are
    read in front of whatever starts markup. -/
theorem readMarkup_contentBefore (indent level : Nat) (tag rest : Text) {children : List Node}
    (writable : Node.Writables children)
    (inside : ∀ after, StartsMarkup after →
      readMarkup (nodesBefore indent (level + 1) after children) =
        (readMarkup after).map (Node.traces children ++ ·)) :
    readMarkup (contentBefore indent level tag rest children) =
      (readMarkup rest).map
        (Node.traces children ++ [.stop (elementName tag)] ++ ·) := by
  have closes := readMarkup_closing tag rest
  unfold contentBefore
  split
  next =>
    rw [closes]
    rfl
  next content position =>
    have starts : StartsMarkup (closing tag ++ rest) := startsMarkup_of_blanks Text.blank_nil _
    rw [readMarkup_text (not_blank_of_isPlain writable.1) starts, closes, Option.map_map]
    rfl
  next =>
    have pad := Text.blank_spaces (indent * level)
    have starts : StartsMarkup (Text.spaces (indent * level) ++ (closing tag ++ rest)) :=
      startsMarkup_of_blanks pad _
    rw [readMarkup_blank rfl, inside _ starts, readMarkup_blanks pad, closes, Option.map_map]
    simp [Function.comp_def]

/-- The markup of nodes that can be written is read as what is met when the nodes are walked
    through, at any indentation and in front of whatever starts markup.

    Recurse on the nodes. The children of an element stand in front of the indented end tag, so the
    markup behind them starts as it has to. -/
theorem readMarkup_nodesBefore (indent level : Nat) (nodes : List Node)
    (writable : Node.Writables nodes) {after : Text} (starts : StartsMarkup after) :
    readMarkup (nodesBefore indent level after nodes) =
      (readMarkup after).map (Node.traces nodes ++ ·) := by
  have pad := Text.blank_spaces (indent * level)
  match nodes with
  | [] =>
    rw [nodesBefore]
    simp [Node.traces]
  | .text content position :: siblings =>
    obtain ⟨plain, neighbours, others⟩ := writable
    have visible := not_blank_of_isPlain plain
    have trimmed : ¬ Blank content.trim := by
      rwa [← Text.trim_eq_nil_iff, Text.trim_trim, Text.trim_eq_nil_iff]
    have later := readMarkup_nodesBefore indent level siblings others starts
    have behind : StartsMarkup (['\n'] ++ nodesBefore indent level after siblings) :=
      startsMarkup_nodesBefore indent level neighbours starts
    rw [nodesBefore_text indent level after visible, readMarkup_blanks pad,
      readMarkup_text trimmed behind, readMarkup_blanks Text.blank_newline, later, Option.map_map,
      Text.trim_trim]
    rfl
  | .comment content position :: siblings =>
    obtain ⟨-, -, others⟩ := writable
    have later := readMarkup_nodesBefore indent level siblings others starts
    rw [nodesBefore_comment, readMarkup_blanks pad, readMarkup_comment, later, Option.map_map]
    rfl
  | .element tag attributes children position :: siblings =>
    obtain ⟨⟨-, valid, inside⟩, -, others⟩ := writable
    have named : ∀ entry ∈ attributes.entries, Source.IsAttributeName entry.1 :=
      fun entry member => (valid entry member).1
    have later := readMarkup_nodesBefore indent level siblings others starts
    rw [nodesBefore_element, readMarkup_blanks pad]
    split
    next image =>
      rw [readMarkup_opening tag named rfl rfl, readMarkup_blank rfl, later, Option.map_map]
      simp only [Node.traces, Node.trace, image, if_true]
      rfl
    next noImage =>
      have content := readMarkup_contentBefore indent level tag
        (nodesBefore indent level after siblings) inside fun behind markup =>
          readMarkup_nodesBefore indent (level + 1) children inside markup
      rw [readMarkup_opening tag named rfl rfl, content, later, Option.map_map, Option.map_map]
      simp [Node.traces, Node.trace, noImage, Function.comp_def]

/-- The rendered nodes of a parsed document are read, completely and at any indentation, as what is
    met when its tree is walked through in document order, and the tags met are nested. Whatever
    the author wrote, no character of it is taken for markup, and no markup for a character of it. -/
theorem readMarkup_renderNodes {source : Text} {document : Document}
    (parsed : parse source = .ok document) (indent level : Nat) :
    readMarkup (renderNodes indent level document.children) =
        some (Node.traces document.children) ∧
      Nested [] (Node.traces document.children) := by
  have writable := (writable_of_parse parsed).parts
  constructor
  · rw [renderNodes, readMarkup_nodesBefore indent level document.children writable startsMarkup_nil,
      readMarkup.eq_def]
    simp
  · have balanced := nested_traces_append document.children [] []
    rw [List.append_nil] at balanced
    exact balanced.mpr rfl

/-- A source that tries to be markup: in a value, in a text and in a comment. -/
def markedSource : Text :=
  "@velocista nombre='\"F\" & <b>' @titulo Hi </p> @/titulo ## --> ## " ++
    "@imagen x @/imagen &lt; @/velocista "

/-- The tree of the source that tries to be markup. -/
def markedDocument : Document :=
  ⟨[.element ("velocista" : String)
    (.ofList [(("nombre" : String), ("\"F\" & <b>" : String))])
    [.element ("titulo" : String) .empty [.text ("Hi </p> " : String) ⟨1, 39⟩] ⟨1, 31⟩,
      .comment (" --> " : String) ⟨1, 56⟩,
      .element ("imagen" : String) .empty [.text ("x " : String) ⟨1, 74⟩] ⟨1, 66⟩,
      .text ("&lt; " : String) ⟨1, 85⟩] ⟨1, 1⟩]⟩

/-- What is met in the tree: one element with a title, a comment, an image without content and a
    text. -/
def markedEvents : List Event :=
  [.start "div" [("data-nombre", "\"F\" & <b>"), ("class", "velocista")],
    .start "h1" [("class", "titulo")], .text "Hi </p>", .stop "h1", .comment "-->",
    .selfClosing "img" [("class", "imagen")], .text "&lt;", .stop "div"]

/-- The source is parsed as its tree, and the markup of the tree is read as what is met in it. -/
theorem readMarkup_renderNodes_marked :
    parse markedSource = .ok markedDocument ∧
      readMarkup (renderNodes 2 1 markedDocument.children) = some markedEvents ∧
      Nested [] markedEvents := by
  have parsed : parse markedSource = .ok markedDocument := by decide +kernel
  have met : Node.traces markedDocument.children = markedEvents := by decide +kernel
  rw [← met]
  exact ⟨parsed, readMarkup_renderNodes parsed 2 1⟩

end Html

end FlashMarkup
