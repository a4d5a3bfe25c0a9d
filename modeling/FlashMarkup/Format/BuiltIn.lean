import FlashMarkup.Document.Outline
import FlashMarkup.Document.Record
import FlashMarkup.Format.Registry
import FlashMarkup.Html.Page

/-!
# Built-in formats

The four formats in which every document can be shown: the drawing of its outline, its page, and
its record in two notations. None of them looks at the grammar, and none of them fails.
-/

namespace FlashMarkup

namespace Formatter

/-- The drawing of the outline. -/
def tree : Formatter where
  name := "ast-treeviz"
  description := "Visual tree representation with Unicode icons"
  render document := .ok (Outline.ofDocument document).draw

/-- The page. -/
def html (options : Html.Options) : Formatter where
  name := "html"
  description := "Complete HTML page with the embedded FlashML theme"
  render document := .ok (Html.renderPage options document)

/-- The record as JSON. -/
def json (options : Record.Options) : Formatter where
  name := "intermediate-json"
  description := "Intermediate record as JSON (the compile artifact)"
  render document := .ok ((Record.ofDocument document).toJson options)

/-- The record as YAML. -/
def yaml : Formatter where
  name := "intermediate-yaml"
  description := "Intermediate record as YAML"
  render document := .ok (Record.ofDocument document).toYaml

end Formatter

/-- The built-in formats with the given options. -/
def Registry.builtIn (page : Html.Options) (record : Record.Options) : Registry :=
  (((empty.register (.json record)).register .yaml).register (.html page)).register .tree

end FlashMarkup
