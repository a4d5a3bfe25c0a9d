import FlashMarkup.Number.Double

/-!
# TOML values

The values that a configuration file can spell. A date or a time is kept as its normal text; the
entries of a table are in the order in which their keys first appear.
-/

namespace FlashMarkup

/-- A value of a TOML file. -/
inductive Toml where
  | text (content : Text)
  | integer (value : Int)
  | decimal (value : Double)
  | boolean (value : Bool)
  | moment (written : Text)
  | list (items : List Toml)
  | table (entries : List (Text × Toml))

instance : Inhabited Toml := ⟨.table []⟩

end FlashMarkup
