import FlashMarkup.Document.Basic

/-!
# Format registries

A registry maps names to formatters. Registering a formatter under a name that is taken replaces
the one that was there. Names are listed in the order of their code points, which is also the
order of their bytes.
-/

namespace FlashMarkup

/-- Why a document cannot be shown in a format. -/
inductive FormatError where
  | notFound (name : Text)
  | serialization (message : Text)
deriving DecidableEq, Repr

/-- The message that reports the failure. -/
def FormatError.message : FormatError → Text
  | .notFound name => "format '" ++ name ++ "' not found"
  | .serialization message => "serialization error: " ++ message

/-- A named way to show a document. -/
structure Formatter where
  name : Text
  description : Text
  render : Document → Except FormatError Text

/-- A formatter that says nothing about itself. -/
def Formatter.undescribed (name : Text) (render : Document → Except FormatError Text) : Formatter :=
  ⟨name, [], render⟩

/-- Formatters in ascending order of their names. -/
structure Registry where
  formatters : List Formatter

namespace Registry

/-- No formatter. -/
def empty : Registry := ⟨[]⟩

/-- Put a formatter in its place, instead of the one with the same name. -/
def place (formatter : Formatter) : List Formatter → List Formatter
  | [] => [formatter]
  | first :: rest =>
    if first.name = formatter.name then formatter :: rest
    else if Text.precedes formatter.name first.name then formatter :: first :: rest
    else first :: place formatter rest

/-- The registry with a formatter under its name. -/
def register (registry : Registry) (formatter : Formatter) : Registry :=
  ⟨place formatter registry.formatters⟩

/-- The formatter under a name. -/
def get? (registry : Registry) (name : Text) : Option Formatter :=
  registry.formatters.find? (·.name == name)

/-- Whether a name has a formatter. -/
def has (registry : Registry) (name : Text) : Bool := (registry.get? name).isSome

/-- The names in ascending order. -/
def names (registry : Registry) : List Text := registry.formatters.map Formatter.name

/-- The names with the descriptions of their formatters, in ascending order of names. -/
def describe (registry : Registry) : List (Text × Text) :=
  registry.formatters.map fun formatter => (formatter.name, formatter.description)

/-- A document in the named format. -/
def serialize (registry : Registry) (document : Document) (name : Text) :
    Except FormatError Text :=
  match registry.get? name with
  | some formatter => formatter.render document
  | none => .error (.notFound name)

end Registry

end FlashMarkup
