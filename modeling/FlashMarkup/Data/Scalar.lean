import FlashMarkup.Number.Decimal

/-!
# Texts that read back as something else

A bare word in a data file may stand for nothing, for a truth value or for a number. A text that
spells such a word has to be quoted. Integers are bounded by 128 bits; a decimal number counts
if it is finite in double precision.
-/

namespace FlashMarkup.Data

/-- Whether a bare word stands for nothing or for a truth value. -/
def isConstantWord (word : Text) : Bool :=
  ([[], "~", "null", "Null", "NULL", "true", "True", "TRUE", "false", "False", "FALSE"] :
    List Text).contains word

/-- The rest of a text behind an opening one. -/
def dropOpening (opening content : Text) : Option Text :=
  if opening.isPrefixOf content then some (content.drop opening.length) else none

/-- The openings of integers in another base than ten. -/
def bases : List (Text × Nat) := [("0x", 16), ("0o", 8), ("0b", 2)]

/-- Whether the text behind a sign is at least two digits of which the first is zero. -/
def hasLeadingZero (word : Text) : Bool :=
  let unsigned :=
    match word with
    | '+' :: rest => rest
    | '-' :: rest => rest
    | _ => word
  1 < unsigned.length && unsigned.head? == some '0' && unsigned.all Char.isDigit

/-- Whether a word without sign spells an integer of at most 128 bits. -/
def isUnsignedWord (word : Text) : Bool :=
  (bases.any fun (opening, base) =>
    ((dropOpening opening word).bind (Text.digits? base)).any (· < Nat.pow 2 128)) ||
    (Text.digits? 10 word).any (· < Nat.pow 2 128)

/-- Whether a word behind a minus sign spells an integer of at least minus two to the 127. -/
def isNegativeWord (word : Text) : Bool :=
  (bases.any fun (opening, base) =>
    ((dropOpening opening word).bind (Text.digits? base)).any (· ≤ Nat.pow 2 127)) ||
    (Text.digits? 10 word).any (· ≤ Nat.pow 2 127)

/-- Whether a word spells an integer. -/
def isIntegerWord (word : Text) : Bool :=
  match word with
  | '-' :: rest => isNegativeWord rest
  | '+' :: rest => isUnsignedWord rest
  | _ => isUnsignedWord word

/-- Whether a word without sign spells a finite decimal number. -/
def isDecimalWord (word : Text) : Bool := (Decimal.ofText? word).any Decimal.isFinite

/-- Whether a word spells an infinity or no number, as data files write them. -/
def isSpecialNumber (word : Text) : Bool :=
  let unsigned :=
    match word with
    | '+' :: rest => rest
    | '-' :: rest => rest
    | _ => word
  ([".inf", ".Inf", ".INF"] : List Text).contains unsigned ||
    ([".nan", ".NaN", ".NAN"] : List Text).contains word

/-- Whether a word spells a number with a point or an exponent, or a special number. -/
def isFloatWord (word : Text) : Bool :=
  isSpecialNumber word ||
    match word with
    | '+' :: rest => isDecimalWord rest
    | '-' :: rest => isDecimalWord rest
    | _ => isDecimalWord word

/-- Whether a bare word would not read back as the text it spells. -/
def isAmbiguous (word : Text) : Bool :=
  isConstantWord word || hasLeadingZero word || isIntegerWord word || isFloatWord word

end FlashMarkup.Data
