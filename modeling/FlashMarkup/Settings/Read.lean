import FlashMarkup.Settings.Error
import FlashMarkup.Text.Lowercase

/-!
# Reading settings

A setting accepts values of several kinds: a number or a truth value stands for its text, and some
words stand for truth values. A section is a table of settings, or a list of them in a fixed order.
-/

namespace FlashMarkup

namespace Setting

/-- The type of an integer as messages about its kind call it. -/
def integerKind (value : Int) : Text :=
  if -Nat.pow 2 63 ≤ value ∧ value < Nat.pow 2 63 then "64-bit integer"
  else if 0 ≤ value ∧ value < Nat.pow 2 64 then "64-bit unsigned integer"
  else if value < Nat.pow 2 127 then "128-bit integer"
  else "128-bit unsigned integer"

/-- The value as messages about its kind call it. -/
def kindText : Setting → Text
  | .scalar _ .null => "unit value"
  | .scalar _ (.boolean value) => "boolean `" ++ booleanText value ++ "`"
  | .scalar _ (.integer value) => integerKind value ++ " `" ++ integerText value ++ "`"
  | .scalar _ (.decimal value) => "floating point `" ++ value.toText ++ "`"
  | .scalar _ (.text content) => "string " ++ content.quoted
  | .list _ _ => "sequence"
  | .table _ _ => "map"

/-- The error for a value of the wrong kind. -/
def refuse {α : Type} (value : Setting) (expected key : Text) : Except SettingsError α :=
  .error (.wrongKind value.kindText expected key value.origin)

/-- The text that a value stands for. -/
def readText (key : Text) : Setting → Except SettingsError Text
  | .scalar _ (.boolean value) => .ok (booleanText value)
  | .scalar _ (.integer value) => .ok (integerText value)
  | .scalar _ (.decimal value) => .ok value.toText
  | .scalar _ (.text content) => .ok content
  | value => value.refuse "a string" key

/-- The text that a value stands for, if it stands for anything. -/
def readOptionalText (key : Text) : Setting → Except SettingsError (Option Text)
  | .scalar _ .null => .ok none
  | value => (readText key value).map some

/-- The words that stand for a truth value. -/
def wordFlag? (word : Text) : Option Bool :=
  if (["true", "on", "yes"] : List Text).contains word then some true
  else if (["false", "off", "no"] : List Text).contains word then some false
  else none

/-- The number below 2 ^ 64 that a word spells. -/
def count? (word : Text) : Option Nat := (Text.unsigned? word).filter (· < Nat.pow 2 64)

/-- The number below 2 ^ 64 that a value stands for. -/
def readCount (key : Text) : Setting → Except SettingsError Nat
  | .scalar _ (.boolean value) => .ok value.toNat
  | .scalar origin (.integer value) =>
    if 0 ≤ value ∧ value < Nat.pow 2 64 then .ok value.toNat
    else
      (Setting.scalar origin (.integer value)).refuse
        "an unsigned 64 bit or less integer" key
  | .scalar _ (.decimal value) => .ok (value.toCount (Nat.pow 2 64 - 1))
  | .scalar origin (.text content) =>
    match wordFlag? (Text.toLower content), count? content with
    | some flag, _ => .ok flag.toNat
    | none, some value => .ok value
    | none, none => (Setting.scalar origin (.text content)).refuse "an integer" key
  | value => value.refuse "an integer" key

/-- The truth value that a value stands for. -/
def readFlag (key : Text) : Setting → Except SettingsError Bool
  | .scalar _ (.boolean value) => .ok value
  | .scalar _ (.integer value) => .ok (value != 0)
  | .scalar _ (.decimal value) => .ok (!value.isZero)
  | .scalar origin (.text content) =>
    let word := Text.toLower content
    if word = ("1" : Text) then .ok true
    else if word = ("0" : Text) then .ok false
    else
      match wordFlag? word with
      | some flag => .ok flag
      | none => (Setting.scalar origin (.text word)).refuse "a boolean" key
  | value => value.refuse "a boolean" key

end Setting

/-- A section of a configuration: the key under which it stands, the name by which messages call it,
    and the number of settings that a list has to give. -/
structure Section where
  key : Text
  label : Text
  size : Nat

namespace Section

/-- What messages about sections say behind an integer: its type, if that has more than 64 bits. -/
def typeText (value : Int) : Text :=
  if -Nat.pow 2 63 ≤ value ∧ value < Nat.pow 2 64 then ""
  else if value < Nat.pow 2 127 then " as i128"
  else " as u128"

/-- A plain value as messages about sections call it. -/
def scalarText : Setting.Scalar → Text
  | .null => "unit value"
  | .boolean value => "boolean `" ++ Setting.booleanText value ++ "`"
  | .integer value => "integer `" ++ Setting.integerText value ++ "`" ++ typeText value
  | .decimal value => "floating point `" ++ value.toPointText ++ "`"
  | .text content => "string " ++ content.quoted

/-- Refuse a section that is a plain value. -/
def ensure (part : Section) : Setting → Except SettingsError Unit
  | .scalar _ content => .error (.wrongSection (scalarText content) part.label)
  | _ => .ok ()

/-- The setting with a name, which is the one at an index if the section is a list. -/
def setting? {α : Type} (part : Section) (value : Setting) (name : Text) (index : Nat)
    (read : Text → Setting → Except SettingsError α) : Except SettingsError (Option α) :=
  match value with
  | .list _ items =>
    match items[index]? with
    | some item => (read (part.key ++ "[" ++ Text.decimal index ++ "]") item).map some
    | none => .ok none
  | value =>
    match value.entries.lookup name with
    | some entry => (read (part.key ++ "." ++ name) entry).map some
    | none => .ok none

/-- A setting that has to be there. -/
def require {α : Type} (part : Section) (value : Setting) (name : Text) (index : Nat) :
    Option α → Except SettingsError α
  | some found => .ok found
  | none =>
    match value with
    | .list _ _ => .error (.shortSection index part.label part.size)
    | _ => .error (.missingSetting name)

end Section

end FlashMarkup
