import FlashMarkup.Data.Json
import FlashMarkup.Position.Basic

/-!
# Positions as data

A position is listed as a record of its line and its column.
-/

namespace FlashMarkup

/-- The position as structured data. -/
def Position.toData (position : Position) : Data :=
  .record [("line", .number position.line), ("column", .number position.column)]

end FlashMarkup
