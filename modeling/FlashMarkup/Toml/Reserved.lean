import FlashMarkup.Toml.Basic
import FlashMarkup.Toml.Moment

/-!
# The reserved key

A table whose first key is the reserved one is no table but a moment, which the text under that key
spells; what else the table holds does not matter. Anywhere else the reserved key is a key like any
other.
-/

namespace FlashMarkup.Toml

/-- The key that makes a moment of its table. -/
def reservedKey : Text := "$__toml_private_datetime"

/-- The moment that the value under the reserved key spells. -/
def reservedMoment? : Toml → Option Toml
  | .text content => (moment? .quoted content).map .moment
  | _ => none

mutual

/-- A value with the moments in it recognised, if they can be. -/
def settle? : Toml → Option Toml
  | .list items => (settleItems? items).map .list
  | .table [] => some (.table [])
  | .table ((key, value) :: rest) =>
    if key = reservedKey then reservedMoment? value
    else do some (.table ((key, ← settle? value) :: (← settleEntries? rest)))
  | value => some value

/-- The items of a list with the moments in them recognised. -/
def settleItems? : List Toml → Option (List Toml)
  | [] => some []
  | item :: rest => do some ((← settle? item) :: (← settleItems? rest))

/-- The entries of a table with the moments in them recognised. -/
def settleEntries? : List (Text × Toml) → Option (List (Text × Toml))
  | [] => some []
  | (key, value) :: rest => do some ((key, ← settle? value) :: (← settleEntries? rest))

end

/-- The entries of a file with the moments in them recognised. The file itself is no moment. -/
def settleFile? (entries : List (Text × Toml)) : Option (List (Text × Toml)) := do
  match ← settle? (.table entries) with
  | .table settled => some settled
  | _ => none

end FlashMarkup.Toml
