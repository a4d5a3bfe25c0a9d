import FlashMarkup.Html.Body
import FlashMarkup.Html.Script
import FlashMarkup.Html.Stylesheet

/-!
# HTML pages

A page is a fixed frame around the HTML of a document: a head with the language, the title, the
theme and the script, and a body whose nodes stand at level one.
-/

namespace FlashMarkup.Html

/-- What can be chosen about a page: its language, its title and the width of one level. -/
structure Options where
  lang : Text := "es"
  title : Text := "Documento FlashML"
  indent : Nat := 2
deriving DecidableEq, Repr

/-- The head of a page. -/
def renderHead (options : Options) : Text :=
  let unit := Text.spaces options.indent
  "<head>\n" ++ unit ++ "<meta charset=\"UTF-8\">\n" ++ unit ++
    "<meta name=\"viewport\" content=\"width=device-width, initial-scale=1.0\">\n" ++ unit ++
    "<title>" ++ escapeText options.title ++ "</title>\n" ++ unit ++ "<style>\n" ++ stylesheet ++
    unit ++ "</style>\n" ++ unit ++ "<script>\n" ++ script ++ unit ++ "</script>\n</head>\n"

/-- The complete page of a document. -/
def renderPage (options : Options) (document : Document) : Text :=
  "<!DOCTYPE html>\n<html lang=\"" ++ escapeAttribute options.lang ++ "\">\n" ++
    renderHead options ++ "<body>\n" ++ renderNodes options.indent 1 document.children ++
    "</body>\n</html>\n"

end FlashMarkup.Html
