import FlashMarkup.Text.Basic

/-!
# Structured data

Records, reports, tokens and diagnostics are written to files in general data notations. They
all become the same kind of tree first, in which the fields of a record keep their order.
-/

namespace FlashMarkup

/-- A tree of values. The fields of a record are in the order in which they are written. -/
inductive Data where
  | null
  | boolean (value : Bool)
  | number (value : Nat)
  | text (content : Text)
  | list (items : List Data)
  | record (fields : List (Text × Data))

end FlashMarkup
