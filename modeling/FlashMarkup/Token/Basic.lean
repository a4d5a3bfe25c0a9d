import FlashMarkup.Position.Basic

/-!
# Tokens

The second layer of reading a source gives lexemes their meaning. A token has a kind, the part
of the source that carries information, and the position at which its written form starts.
-/

namespace FlashMarkup

/-- The kinds of tokens. -/
inductive Token.Kind where
  | tagOpen
  | tagClose
  | attributeName
  | attributeValue
  | text
  | comment
  | endOfInput
deriving DecidableEq, Repr

/-- A kind, the value without its delimiters, and the position of the written form. -/
structure Token where
  kind : Token.Kind
  value : Text
  position : Position
deriving DecidableEq, Repr

namespace Token

/-- The words by which messages call a kind. -/
def Kind.describe : Kind → Text
  | .tagOpen => "opening tag"
  | .tagClose => "closing tag"
  | .attributeName => "attribute name"
  | .attributeValue => "attribute value"
  | .text => "text"
  | .comment => "comment"
  | .endOfInput => "end of input"

/-- The identifier by which records call a kind. -/
def Kind.identifier : Kind → Text
  | .tagOpen => "TagOpen"
  | .tagClose => "TagClose"
  | .attributeName => "AttributeName"
  | .attributeValue => "AttributeValue"
  | .text => "Text"
  | .comment => "Comment"
  | .endOfInput => "EndOfInput"

/-- Whether a token of this kind can end the head of a tag, so that an at sign directly behind it
    closes the head. -/
def Kind.endsHead : Kind → Bool
  | .tagOpen | .tagClose | .attributeValue => true
  | _ => false

/-- Whether the token ends the input. -/
def isEnd (token : Token) : Bool := token.kind == .endOfInput

/-- Whether the token is the closing tag of the given name. -/
def closes (token : Token) (name : Text) : Bool := token.kind == .tagClose && token.value == name

/-- The words by which messages call the token, without its position. -/
def describe (token : Token) : Text := token.kind.describe ++ " '" ++ token.value ++ "'"

/-- The token in one line of text. The end of the input has no value to show. -/
def toText (token : Token) : Text :=
  if token.isEnd then token.kind.describe ++ " at " ++ token.position.toText
  else token.describe ++ " at " ++ token.position.toText

end Token

end FlashMarkup
