import FlashMarkup.Number.Decimal

/-!
# Key paths

A key path leads to a value of a configuration. It starts with a name, and each step behind that is
a name behind a dot or an index in brackets. Names are made of letters, digits, underscores, hyphens
and spaces. A negative index counts from the end.
-/

namespace FlashMarkup

/-- A step of a key path. -/
inductive KeyPath.Step where
  | key (name : Text)
  | index (position : Int)
deriving DecidableEq, Repr

/-- A name and the steps behind it. -/
structure KeyPath where
  first : Text
  steps : List KeyPath.Step
deriving DecidableEq, Repr

/-- What is missing where a key path cannot be read. -/
inductive KeyPath.Fault where
  /-- The name at its start. -/
  | name
  /-- A dot with a name, or a bracket. -/
  | mark
  /-- The digits behind an opening bracket. -/
  | digit
  /-- An index that fits into 64 bits. -/
  | bound
deriving DecidableEq, Repr

namespace KeyPath

/-- The word that reports a fault. -/
def Fault.message : Fault → Text
  | .name => "IsA"
  | .mark => "Char"
  | .digit => "Digit"
  | .bound => "Map on Result"

/-- Whether a character may stand in a name. -/
def isNameChar (c : Char) : Bool := c.isAlphanum || c == '_' || c == '-' || c == ' '

/-- The text without the spaces and tabs at its front. -/
def skipBlanks (source : Text) : Text := source.dropWhile fun c => c == ' ' || c == '\t'

/-- An index behind its opening bracket, up to the closing one. -/
def readIndex (source : Text) : Except Fault (Int × Text) :=
  let signed := skipBlanks source
  let unsigned := if signed.head? = some '-' then signed.drop 1 else signed
  let after := skipBlanks (unsigned.dropWhile Char.isDigit)
  match Text.digits? 10 (unsigned.takeWhile Char.isDigit) with
  | none => .error .digit
  | some value =>
    let position : Int := if signed.head? = some '-' then -(value : Int) else value
    if position < -Nat.pow 2 63 ∨ Nat.pow 2 63 ≤ position then .error .bound
    else if after.head? = some ']' then .ok (position, after.drop 1)
    else .error .mark

/-- The steps behind the first name. -/
def readSteps : (limit : Nat) → Text → Except Fault (List Step)
  | _, [] => .ok []
  | 0, _ :: _ => .error .mark
  | limit + 1, c :: rest =>
    let name := rest.takeWhile isNameChar
    if c = '.' ∧ !name.isEmpty then
      (readSteps limit (rest.dropWhile isNameChar)).map (.key name :: ·)
    else if c = '[' then do
      let (position, left) ← readIndex rest
      let steps ← readSteps limit left
      .ok (.index position :: steps)
    else .error .mark

/-- The key path that a text spells. -/
def ofText (source : Text) : Except Fault KeyPath :=
  let first := source.takeWhile isNameChar
  if first.isEmpty then .error .name
  else (readSteps source.length (source.dropWhile isNameChar)).map fun steps => ⟨first, steps⟩

end KeyPath

end FlashMarkup
