import FlashMarkup.Text.Basic

/-!
# Blank characters

The Unicode property `White_Space` holds of 25 characters. They separate lexemes and they are
what trimming removes; nothing else in the library counts as blank.
-/

namespace FlashMarkup.Text

/-- Whether a character has the Unicode property `White_Space`. -/
def isBlank (c : Char) : Bool :=
  let code := c.toNat
  (9 ≤ code && code ≤ 13) || code == 0x20 || code == 0x85 || code == 0xA0 || code == 0x1680 ||
    (0x2000 ≤ code && code ≤ 0x200A) || code == 0x2028 || code == 0x2029 || code == 0x202F ||
    code == 0x205F || code == 0x3000

/-- A text without its leading blanks. -/
def trimStart (content : Text) : Text := content.dropWhile isBlank

/-- A text without its trailing blanks. -/
def trimEnd (content : Text) : Text := (trimStart content.reverse).reverse

/-- A text without its leading and trailing blanks. -/
def trim (content : Text) : Text := trimEnd (trimStart content)

end FlashMarkup.Text
