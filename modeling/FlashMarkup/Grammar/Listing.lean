import FlashMarkup.Grammar.Validate
import FlashMarkup.Position.Listing

/-!
# Diagnostic listings

Diagnostics are listed as records of their kind, their message and their position, in order. A
diagnostic without a position lists the null value in its place.
-/

namespace FlashMarkup.Diagnostic

/-- The diagnostic as structured data. -/
def toData (diagnostic : Diagnostic) : Data :=
  .record [("kind", .text diagnostic.violation.identifier),
    ("message", .text diagnostic.violation.message),
    ("position", (diagnostic.position.map Position.toData).getD .null)]

/-- Several diagnostics as structured data, in order. -/
def listing (diagnostics : List Diagnostic) : Data := .list (diagnostics.map toData)

end FlashMarkup.Diagnostic
