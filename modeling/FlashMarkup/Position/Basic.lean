import FlashMarkup.Text.Basic

/-!
# Positions

A position is a line and a column of a source, both counted from one. A column counts
characters, and only a line feed ends a line. Reading a text moves a position past it, one
character at a time, so positions compose with concatenation.
-/

namespace FlashMarkup

/-- A line and a column, both counted from one. -/
structure Position where
  line : Nat
  column : Nat
deriving DecidableEq, Repr

namespace Position

/-- The position of the first character of a source. -/
def start : Position := ⟨1, 1⟩

instance : Inhabited Position := ⟨start⟩

/-- The position just past one character. -/
def next (position : Position) (c : Char) : Position :=
  if c = '\n' then ⟨position.line + 1, 1⟩ else ⟨position.line, position.column + 1⟩

/-- The position just past a text that starts at the given position. -/
def past (position : Position) (content : Text) : Position := content.foldl next position

/-- The written form, line and column separated by a colon. -/
def toText (position : Position) : Text :=
  Text.decimal position.line ++ ":" ++ Text.decimal position.column

/-- Reading nothing stays where it is. -/
@[simp]
theorem past_nil (position : Position) : position.past [] = position := rfl

/-- Reading moves past the first character and then past the others. -/
@[simp]
theorem past_cons (position : Position) (c : Char) (rest : Text) :
    position.past (c :: rest) = (position.next c).past rest := rfl

/-- Reading two texts one after the other is reading their concatenation. -/
theorem past_append (position : Position) (first second : Text) :
    position.past (first ++ second) = (position.past first).past second :=
  List.foldl_append

end Position

end FlashMarkup
