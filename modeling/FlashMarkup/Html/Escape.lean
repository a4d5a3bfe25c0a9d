import FlashMarkup.Text.Basic

/-!
# Character references

Characters that HTML gives a meaning are written as character references. The replacements run
one after the other; the ampersand comes first, so that no later one touches a reference.
-/

namespace FlashMarkup.Html

/-- The text with ampersands and angle brackets written as character references. -/
def escapeText (content : Text) : Text :=
  ((content.replaceChar '&' "&amp;").replaceChar '<' "&lt;").replaceChar '>' "&gt;"

/-- The text as it stands between the double quotes of an attribute. -/
def escapeAttribute (content : Text) : Text := (escapeText content).replaceChar '"' "&quot;"

end FlashMarkup.Html
