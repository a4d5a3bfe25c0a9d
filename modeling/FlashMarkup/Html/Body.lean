import FlashMarkup.Document.Basic
import FlashMarkup.Html.Escape
import FlashMarkup.Html.Names
import FlashMarkup.Text.Blank

/-!
# HTML of a document

Every node of a document becomes lines of HTML, indented by its depth. An element with nothing
but one text is written on one line with the text as it is; elsewhere a text stands trimmed on a
line of its own, and a blank one is left out. An image has no content, whatever its element
holds. The tag of each element is kept as the class of its HTML element.
-/

namespace FlashMarkup.Html

/-- One attribute with a leading space. -/
def attributeText (name value : Text) : Text :=
  " " ++ name ++ "=\"" ++ escapeAttribute value ++ "\""

/-- The attributes of an element, in order, and its tag as the class. -/
def attributesText (tag : Text) (entries : Attributes) : Text :=
  entries.entries.flatMap (fun (name, value) => attributeText (attributeName name) value) ++
    attributeText "class" tag

/-- The start tag up to its closing bracket. -/
def opening (tag : Text) (entries : Attributes) : Text :=
  "<" ++ elementName tag ++ attributesText tag entries

/-- The end tag, which ends its line. -/
def closing (tag : Text) : Text := "</" ++ elementName tag ++ ">\n"

/-- A text on a line of its own, or nothing if it is blank. -/
def textLine (pad content : Text) : Text :=
  let trimmed := content.trim
  if trimmed.isEmpty then [] else pad ++ escapeText trimmed ++ "\n"

/-- A comment on a line of its own. -/
def commentLine (pad content : Text) : Text :=
  pad ++ "<!-- " ++ escapeText content.trim ++ " -->\n"

mutual

/-- The HTML of one node in front of what follows it. `indent` is the width of one level. -/
def nodeBefore (indent level : Nat) (after : Text) : Node → Text
  | .element tag entries children _ =>
    let pad := Text.spaces (indent * level)
    if tag = imageTag then pad ++ opening tag entries ++ " />\n" ++ after
    else
      let start := pad ++ opening tag entries ++ ">"
      start ++
        match children with
        | [] => closing tag ++ after
        | [.text content _] => escapeText content ++ (closing tag ++ after)
        | children => '\n' :: nodesBefore indent (level + 1) (pad ++ (closing tag ++ after)) children
  | .text content _ => textLine (Text.spaces (indent * level)) content ++ after
  | .comment content _ => commentLine (Text.spaces (indent * level)) content ++ after

/-- The HTML of several nodes, one after the other, in front of what follows them. -/
def nodesBefore (indent level : Nat) (after : Text) : List Node → Text
  | [] => after
  | node :: rest => nodeBefore indent level (nodesBefore indent level after rest) node

end

/-- The HTML of several nodes, one after the other. -/
def renderNodes (indent level : Nat) (nodes : List Node) : Text := nodesBefore indent level [] nodes

/-- The HTML of a document's nodes, from level zero. -/
def renderBody (indent : Nat) (document : Document) : Text :=
  renderNodes indent 0 document.children

end FlashMarkup.Html
