import FlashMarkup.Text.Visible

/-!
# Quoted texts

A text in a message is quoted so that its bounds and its invisible characters can be seen.
-/

namespace FlashMarkup.Text

/-- One character between quotes. An invisible one shows as its hexadecimal code. -/
def quotedChar (c : Char) : Text :=
  if c = '"' then ['\\', '"']
  else if c = '\\' then ['\\', '\\']
  else if c = '\n' then ['\\', 'n']
  else if c = '\r' then ['\\', 'r']
  else if c = '\t' then ['\\', 't']
  else if c = '\x00' then ['\\', '0']
  else if isVisible c then [c]
  else '\\' :: 'u' :: '\x7b' :: Nat.toDigits 16 c.toNat ++ ['\x7d']

/-- The text between double quotes. -/
def quoted (content : Text) : Text := '"' :: content.flatMap quotedChar ++ ['"']

end FlashMarkup.Text
