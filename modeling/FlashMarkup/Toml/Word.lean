import FlashMarkup.Toml.Basic
import FlashMarkup.Toml.Layout
import FlashMarkup.Toml.Moment

/-!
# Words in TOML files

A value that is not quoted and has no parts is one word: a truth value, an integer, a number with a
fraction or an exponent, or a date or a time. Single underscores may stand between the digits of a
number. A date and a time make one value together, also when a space separates them.
-/

namespace FlashMarkup.Toml

/-- Whether a character may belong to a word. -/
def inWord (c : Char) : Bool := !(isBlank c || "\n\r#,]\x7d".toList.contains c)

/-- The digits of a word without the underscores between them. -/
def ungroup? (isDigit : Char → Bool) (word : Text) : Option Text :=
  let groups := pieces '_' word
  if groups.all fun group => !group.isEmpty && group.all isDigit then some groups.flatten else none

/-- The decimal digits of a word without leading zeros. -/
def decimalDigits? (word : Text) : Option Text := do
  let digits ← ungroup? Char.isDigit word
  if 1 < digits.length ∧ digits.head? = some '0' then none else some digits

/-- Whether a word starts with a minus sign, and the word without its sign. -/
def splitSign : Text → Bool × Text
  | '-' :: rest => (true, rest)
  | '+' :: rest => (false, rest)
  | word => (false, word)

/-- An integer that fits into 64 bits. -/
def bounded? (value : Int) : Option Int :=
  if -Nat.pow 2 63 ≤ value ∧ value < Nat.pow 2 63 then some value else none

/-- Whether a character is a digit of a base. -/
def isDigitOf (base : Nat) (c : Char) : Bool := (Text.digitValue? c).any (· < base)

/-- An integer in another base than ten, behind its opening. -/
def basedInteger? (base : Nat) (word : Text) : Option Int := do
  let digits ← ungroup? (isDigitOf base) word
  bounded? (← Text.digits? base digits)

/-- The integer that a word spells. -/
def integer? (word : Text) : Option Int :=
  match word with
  | '0' :: 'x' :: rest => basedInteger? 16 rest
  | '0' :: 'o' :: rest => basedInteger? 8 rest
  | '0' :: 'b' :: rest => basedInteger? 2 rest
  | _ => do
    let (negative, unsigned) := splitSign word
    let value ← Text.digits? 10 (← decimalDigits? unsigned)
    bounded? (if negative then -(value : Int) else value)

/-- The exponent behind its mark; nothing stands for zero. -/
def exponent? : Text → Option Int
  | [] => some 0
  | _ :: word => do
    let (negative, unsigned) := splitSign word
    let value ← Text.digits? 10 (← ungroup? Char.isDigit unsigned)
    some (if negative then -(value : Int) else value)

/-- The digits behind a point; nothing stands for none. -/
def fraction? : Text → Option Text
  | [] => some []
  | _ :: digits => ungroup? Char.isDigit digits

/-- The decimal number that a word without sign spells, which has a fraction or an exponent. -/
def unsignedDecimal? (word : Text) : Option Decimal := do
  let mantissa := word.takeWhile fun c => !Decimal.isMark c
  let exponent ← exponent? (word.dropWhile fun c => !Decimal.isMark c)
  let whole ← decimalDigits? (mantissa.takeWhile (· != '.'))
  let fraction ← fraction? (mantissa.dropWhile (· != '.'))
  if word.any fun c => Decimal.isMark c || c == '.' then
    some ⟨← Text.digits? 10 (whole ++ fraction), exponent - fraction.length⟩
  else none

/-- The number in double precision that a word spells. A number too large for it is refused unless
    it is negative. -/
def double? (word : Text) : Option Double := do
  let (negative, unsigned) := splitSign word
  if unsigned = ("inf" : Text) then some (.infinite negative)
  else if unsigned = ("nan" : Text) then some .notNumber
  else
    let value := Double.ofDecimal negative (← unsignedDecimal? unsigned)
    if value = .infinite false then none else some value

/-- The value that a word spells. -/
def ofWord? (word : Text) : Option Toml :=
  if word = ("true" : Text) then some (.boolean true)
  else if word = ("false" : Text) then some (.boolean false)
  else
    ((integer? word).map .integer).or (((double? word).map .decimal).or
      ((moment? .plain word).map .moment))

/-- A date followed by a space and a time, and what follows them. -/
def spacedMoment? (source : Text) : Option (Toml × Text) := do
  let date ← date? (source.takeWhile inWord)
  match source.dropWhile inWord with
  | ' ' :: rest => do
    let time ← zonedTime? .plain (rest.takeWhile inWord)
    some (.moment (date ++ 'T' :: time), rest.dropWhile inWord)
  | _ => none

/-- The value that the words at the front of a text spell, and what follows them. -/
def word? (source : Text) : Option (Toml × Text) :=
  (spacedMoment? source).or
    ((ofWord? (source.takeWhile inWord)).map fun value => (value, source.dropWhile inWord))

end FlashMarkup.Toml
