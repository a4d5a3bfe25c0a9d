import FlashMarkup.Position.Listing
import FlashMarkup.Token.Basic

/-!
# Token listings

Tokens are listed as records of their kind, their value and their position, in order.
-/

namespace FlashMarkup.Token

/-- The token as structured data. -/
def toData (token : Token) : Data :=
  .record [("kind", .text token.kind.identifier), ("value", .text token.value),
    ("position", token.position.toData)]

/-- Several tokens as structured data, in order. -/
def listing (tokens : List Token) : Data := .list (tokens.map toData)

end FlashMarkup.Token
