import FlashMarkup.Number.Shortest
import FlashMarkup.Text.Quoted
import FlashMarkup.Toml.Basic

/-!
# Values of settings

A configuration is a tree of tables, lists and plain values. A value remembers the file in which it
was written, so that a message about it can name the file. A table that has been put together from
several layers belongs to no file.
-/

namespace FlashMarkup

/-- A plain value. An integer is of the narrowest type that holds it: of 64 bits or else of 128 bits,
    with a sign if possible. -/
inductive Setting.Scalar where
  | null
  | boolean (value : Bool)
  | integer (value : Int)
  | decimal (value : Double)
  | text (content : Text)
deriving DecidableEq, Repr

/-- A value with the file it was written in, if there is one. -/
inductive Setting where
  | scalar (origin : Option Text) (content : Setting.Scalar)
  | list (origin : Option Text) (items : List Setting)
  | table (origin : Option Text) (entries : List (Text × Setting))

namespace Setting

instance : Inhabited Setting := ⟨.table none []⟩

/-- The decimal text of an integer. -/
def integerText : Int → Text
  | .ofNat value => Text.decimal value
  | .negSucc value => '-' :: Text.decimal (value + 1)

/-- The word for a truth value. -/
def booleanText : Bool → Text
  | true => "true"
  | false => "false"

/-- The file in which a value was written. -/
def origin : Setting → Option Text
  | .scalar origin _ => origin
  | .list origin _ => origin
  | .table origin _ => origin

/-- The entries of a table; none of anything else. -/
def entries : Setting → List (Text × Setting)
  | .table _ entries => entries
  | _ => []

/-- The items of a list; none of anything else. -/
def items : Setting → List Setting
  | .list _ items => items
  | _ => []

mutual

/-- A value from a file. -/
def ofToml (origin : Option Text) : Toml → Setting
  | .text content => .scalar origin (.text content)
  | .integer value => .scalar origin (.integer value)
  | .decimal value => .scalar origin (.decimal value)
  | .boolean value => .scalar origin (.boolean value)
  | .moment written => .scalar origin (.text written)
  | .list items => .list origin (ofTomlItems origin items)
  | .table entries => .table origin (ofTomlEntries origin entries)

/-- The items of a list from a file. -/
def ofTomlItems (origin : Option Text) : List Toml → List Setting
  | [] => []
  | item :: rest => ofToml origin item :: ofTomlItems origin rest

/-- The entries of a table from a file. -/
def ofTomlEntries (origin : Option Text) : List (Text × Toml) → List (Text × Setting)
  | [] => []
  | (key, value) :: rest => (key, ofToml origin value) :: ofTomlEntries origin rest

end

end Setting

end FlashMarkup
