import FlashMarkup.Text.Basic

/-!
# Texts as bytes

Files and paths are byte sequences; texts are stored in them as UTF-8. Reading is strict where a
text is required and lenient where a byte sequence is only displayed: each maximal malformed
part then shows as one replacement character.
-/

namespace FlashMarkup

/-- A byte sequence, as a file or a path holds it. -/
abbrev Bytes := List UInt8

namespace Text

/-- The UTF-8 encoding of a text. -/
def toBytes (content : Text) : Bytes := content.flatMap String.utf8EncodeChar

/-- The number of bytes of a text's UTF-8 encoding. -/
def byteLength (content : Text) : Nat := content.foldr (fun c count => c.utf8Size + count) 0

/-- The text left after its first `count` bytes, provided a character ends there. -/
def dropBytes : Nat → Text → Option Text
  | 0, content => some content
  | _ + 1, [] => none
  | count + 1, c :: rest =>
    if c.utf8Size ≤ count + 1 then dropBytes (count + 1 - c.utf8Size) rest else none
termination_by structural _ content => content

end Text

namespace Bytes

/-- The first piece of a byte sequence: one character, or a malformed part; with the number of
    bytes that follow its first byte. -/
inductive Piece where
  | scalar (c : Char) (more : Nat)
  | malformed (more : Nat)

/-- Whether a byte lies between two bounds, both included. -/
def within (low high byte : UInt8) : Bool := low ≤ byte && byte ≤ high

/-- Whether a byte continues a character. -/
def continues (byte : UInt8) : Bool := within 0x80 0xBF byte

/-- The payload bits of the bytes of one character, most significant first. -/
def payload (first : Nat) (more : Bytes) : Char :=
  Char.ofNat (more.foldl (fun value byte => value * 64 + (byte.toNat - 0x80)) first)

/-- The bounds that the second byte of a character has to respect, and the number of bytes after
    the first; none when no character starts with the byte. The bounds exclude overlong forms,
    surrogates and values past the last code point. -/
def lead (byte : UInt8) : Option (UInt8 × UInt8 × Nat) :=
  if within 0xC2 0xDF byte then some (0x80, 0xBF, 1)
  else if byte = 0xE0 then some (0xA0, 0xBF, 2)
  else if byte = 0xED then some (0x80, 0x9F, 2)
  else if within 0xE1 0xEF byte then some (0x80, 0xBF, 2)
  else if byte = 0xF0 then some (0x90, 0xBF, 3)
  else if within 0xF1 0xF3 byte then some (0x80, 0xBF, 3)
  else if byte = 0xF4 then some (0x80, 0x8F, 3)
  else none

/-- The payload bits of a first byte followed by `more` others. -/
def leadPayload (byte : UInt8) : Nat → Nat
  | 1 => byte.toNat - 0xC0
  | 2 => byte.toNat - 0xE0
  | _ => byte.toNat - 0xF0

/-- The piece that starts with the given byte. A malformed part is as long as it could still
    have become a character. -/
def piece (byte : UInt8) (rest : Bytes) : Piece :=
  if byte < 0x80 then .scalar (Char.ofNat byte.toNat) 0
  else
    match lead byte, rest with
    | some (low, high, more), second :: others =>
      if within low high second then
        let tail := second :: (others.takeWhile continues).take (more - 1)
        if tail.length = more then .scalar (payload (leadPayload byte more) tail) more
        else .malformed tail.length
      else .malformed 0
    | _, _ => .malformed 0

/-- The text that the bytes encode, if they are well-formed UTF-8. -/
def decode? : Bytes → Option Text
  | [] => some []
  | byte :: rest =>
    match piece byte rest with
    | .scalar c more => (decode? (rest.drop more)).map (c :: ·)
    | .malformed _ => none
termination_by bytes => bytes.length
decreasing_by simp only [List.length_cons, List.length_drop]; omega

/-- The text that displays the bytes: each malformed part shows as U+FFFD. -/
def display : Bytes → Text
  | [] => []
  | byte :: rest =>
    match piece byte rest with
    | .scalar c more => c :: display (rest.drop more)
    | .malformed more => '\uFFFD' :: display (rest.drop more)
termination_by bytes => bytes.length
decreasing_by all_goals simp only [List.length_cons, List.length_drop]; omega

end Bytes

end FlashMarkup
