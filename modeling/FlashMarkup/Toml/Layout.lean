import FlashMarkup.Text.Basic

/-!
# Layout of TOML files

Blanks separate words on one line, and a statement ends with its line. A line break is a line feed
with or without a carriage return before it; a carriage return alone is not allowed anywhere. A
comment runs to the end of its line.
-/

namespace FlashMarkup.Toml

/-- Whether a character separates words. -/
def isBlank (c : Char) : Bool := c == ' ' || c == '\t'

/-- Whether a character may stand in comments and strings. Control characters may not. -/
def isPlain (c : Char) : Bool := c == '\t' || (0x20 ≤ c.toNat && c != '\x7f')

/-- The text without the blanks at its front. -/
def skipBlanks (source : Text) : Text := source.dropWhile isBlank

/-- The text without the comment at its front. -/
def skipComment : Text → Text
  | [] => []
  | c :: rest => if c = '#' then rest.dropWhile isPlain else c :: rest

/-- What follows the line break at the front of a text. -/
def lineBreak? : Text → Option Text
  | '\n' :: rest => some rest
  | '\r' :: '\n' :: rest => some rest
  | _ => none

/-- What follows the end of a statement: blanks and a comment, up to the end of the line or of the
    text. -/
def endStatement (source : Text) : Option Text :=
  match skipComment (skipBlanks source) with
  | [] => some []
  | rest => lineBreak? rest

/-- The text without the blanks and the line breaks at its front. -/
def skipLines : Text → Text
  | [] => []
  | '\r' :: '\n' :: rest => skipLines rest
  | c :: rest => if isBlank c || c == '\n' then skipLines rest else c :: rest

/-- Skipping lines makes no text longer. -/
theorem length_skipLines (source : Text) : (skipLines source).length ≤ source.length := by
  fun_induction skipLines source with
  | case1 => exact Nat.le_refl _
  | case2 rest ih => exact Nat.le_succ_of_le (Nat.le_succ_of_le ih)
  | case3 c rest _ _ ih => exact Nat.le_succ_of_le ih
  | case4 => exact Nat.le_refl _

/-- The text without the blanks, the line breaks and the comments at its front. -/
def skipLayout (source : Text) : Text :=
  match _front : skipLines source with
  | [] => []
  | c :: rest => if c = '#' then skipLayout (rest.dropWhile isPlain) else c :: rest
termination_by source.length
decreasing_by
  have bound := length_skipLines source
  rw [_front] at bound
  exact Nat.lt_of_le_of_lt (List.dropWhile_sublist _).length_le bound

end FlashMarkup.Toml
