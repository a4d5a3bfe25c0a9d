/-!
# Text

A text is the list of its characters. The whole library reads and writes texts, so that every
definition recurses on characters and every law is an induction over a list. A string literal
stands for the text it spells.
-/

namespace FlashMarkup

/-- A text is the list of its characters, one Unicode scalar value each. -/
abbrev Text := List Char

/-- A string literal stands for the text of its characters. -/
instance : Coe String Text := ⟨String.toList⟩

/-- The pieces between the occurrences of a separator, in order. There is always at least one
    piece. -/
def pieces {α : Type} [DecidableEq α] (separator : α) : List α → List (List α)
  | [] => [[]]
  | first :: rest =>
    if first = separator then [] :: pieces separator rest
    else
      match pieces separator rest with
      | piece :: others => (first :: piece) :: others
      | [] => [[first]]

namespace Text

/-- The decimal digits of a number, with no sign and no leading zero. -/
def decimal (number : Nat) : Text := Nat.toDigits 10 number

/-- The lower-case hexadecimal digits of a number below 256, two of them. -/
def hexPair (number : Nat) : Text :=
  [Nat.digitChar (number / 16), Nat.digitChar (number % 16)]

/-- A run of blanks, used for padding and indentation. -/
def spaces (width : Nat) : Text := List.replicate width ' '

/-- The parts in order, with the separator between neighbours only. -/
def join (separator : Text) (parts : List Text) : Text := separator.intercalate parts

/-- The text followed by a line break. -/
def line (content : Text) : Text := content ++ ['\n']

/-- The lines of a text that ends each of its lines with a line break. -/
def unlines (lines : List Text) : Text := lines.flatMap line

/-- Add a final line break where the text has none. -/
def endLine (content : Text) : Text :=
  if content.getLast? = some '\n' then content else line content

/-- Every occurrence of one character replaced by a text. -/
def replaceChar (content : Text) (sought : Char) (replacement : Text) : Text :=
  content.flatMap fun c => if c = sought then replacement else [c]

/-- At most `width` characters; a longer text is cut and marked with three dots. -/
def truncate (width : Nat) (content : Text) : Text :=
  if width < content.length then content.take width ++ "..." else content

/-- Whether a text comes strictly before another one, character by character. -/
def precedes : Text → Text → Bool
  | _, [] => false
  | [], _ :: _ => true
  | c :: rest, d :: others => c.toNat < d.toNat || (c == d && precedes rest others)

end Text

end FlashMarkup
