import FlashMarkup.Text.Blank
import FlashMarkup.Text.Bytes

/-!
# Lexemes

The first layer of reading a source cuts it into lexemes, without looking at what they mean.
Neighbouring characters belong to one run if they have the same class and the class grows: a
run of blanks, of word characters or of other characters is one lexeme, a run of hashes is cut
into pairs from the left, and every remaining character stands alone. Nothing is dropped, so
the lexemes concatenate to the source.
-/

namespace FlashMarkup

/-- The classes of lexemes. -/
inductive Lexeme.Kind where
  | atSign
  | slash
  | commentDelimiter
  | hash
  | equals
  | doubleQuote
  | singleQuote
  | blank
  | word
  | other
deriving DecidableEq, Repr

/-- A piece of the source with its class. -/
structure Lexeme where
  kind : Lexeme.Kind
  text : Text
deriving DecidableEq, Repr

namespace Lexeme

/-- Whether a character may occur in a name: an ASCII letter, a digit or an underscore. -/
def isWordChar (c : Char) : Bool := c.isAlphanum || c == '_'

/-- The class of a character on its own. -/
def Kind.ofChar (c : Char) : Kind :=
  if c = '@' then .atSign
  else if c = '/' then .slash
  else if c = '#' then .hash
  else if c = '=' then .equals
  else if c = '"' then .doubleQuote
  else if c = '\'' then .singleQuote
  else if Text.isBlank c then .blank
  else if isWordChar c then .word
  else .other

/-- Whether neighbouring characters of this class form one run. -/
def Kind.grows : Kind → Bool
  | .blank | .word | .other | .hash => true
  | _ => false

/-- Whether two neighbouring characters belong to one run. -/
def sameRun (first second : Char) : Bool :=
  Kind.ofChar first == Kind.ofChar second && (Kind.ofChar first).grows

/-- Hashes cut into pairs from the left; an odd one is left at the end. -/
def pairHashes : Text → List Lexeme
  | [] => []
  | [c] => [⟨.hash, [c]⟩]
  | c :: d :: rest => ⟨.commentDelimiter, [c, d]⟩ :: pairHashes rest

/-- The lexemes of one run. -/
def ofRun : Text → List Lexeme
  | [] => []
  | c :: rest =>
    if Kind.ofChar c = .hash then pairHashes (c :: rest) else [⟨Kind.ofChar c, c :: rest⟩]

/-- The lexemes of a source, in order. -/
def split (source : Text) : List Lexeme := (source.splitBy sameRun).flatMap ofRun

/-- The source that a list of lexemes was cut from. -/
def concat (lexemes : List Lexeme) : Text := lexemes.flatMap text

/-- A class with the byte offsets at which its lexeme starts and ends. -/
structure Span where
  kind : Kind
  start : Nat
  stop : Nat
deriving DecidableEq, Repr

/-- The spans of consecutive lexemes, the first of which starts at the given byte offset. -/
def spansFrom (offset : Nat) : List Lexeme → List Span
  | [] => []
  | lexeme :: rest =>
    let stop := offset + lexeme.text.byteLength
    ⟨lexeme.kind, offset, stop⟩ :: spansFrom stop rest

/-- The spans of the lexemes of a source. -/
def spans (source : Text) : List Span := spansFrom 0 (split source)

/-- Pairing hashes loses none of them. -/
theorem concat_pairHashes (hashes : Text) : concat (pairHashes hashes) = hashes := by
  fun_induction pairHashes hashes with
  | case1 => rfl
  | case2 c => rfl
  | case3 c d rest ih => simpa [concat] using ih

end Lexeme

end FlashMarkup
