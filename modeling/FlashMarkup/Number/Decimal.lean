import FlashMarkup.Text.Basic

/-!
# Decimal numbers

Numbers as they are written: runs of digits in some base, and integers times powers of ten. A
decimal number counts as finite if double precision does not round it to infinity, that is, if it
lies below the midpoint between the largest double and the next power of two.
-/

namespace FlashMarkup

namespace Text

/-- The value of a digit in any base up to sixteen. -/
def digitValue? (c : Char) : Option Nat :=
  if '0' ≤ c ∧ c ≤ '9' then some (c.toNat - '0'.toNat)
  else if 'a' ≤ c ∧ c ≤ 'f' then some (c.toNat - 'a'.toNat + 10)
  else if 'A' ≤ c ∧ c ≤ 'F' then some (c.toNat - 'A'.toNat + 10)
  else none

/-- The number that a text of one or more digits of a base spells. -/
def digits? (base : Nat) (word : Text) : Option Nat :=
  if word.isEmpty then none
  else
    word.foldlM
      (fun value c =>
        match digitValue? c with
        | some digit => if digit < base then some (value * base + digit) else none
        | none => none)
      0

/-- The number that a word of decimal digits spells, behind an optional plus sign. -/
def unsigned? (word : Text) : Option Nat :=
  digits? 10 (if word.head? = some '+' then word.drop 1 else word)

end Text

/-- A decimal number as an integer times a power of ten. -/
structure Decimal where
  significand : Nat
  exponent : Int
deriving DecidableEq, Repr

namespace Decimal

/-- The exponent behind an exponent mark, with its optional sign. -/
def exponent? (word : Text) : Option Int :=
  match word with
  | '-' :: rest => (Text.digits? 10 rest).map fun value => -(value : Int)
  | '+' :: rest => (Text.digits? 10 rest).map Int.ofNat
  | _ => (Text.digits? 10 word).map Int.ofNat

/-- Whether a character marks an exponent. -/
def isMark (c : Char) : Bool := c == 'e' || c == 'E'

/-- The decimal number that a word without sign spells: digits with at most one point and at
    least one digit, and an optional exponent. -/
def ofText? (word : Text) : Option Decimal := do
  let mantissa := word.takeWhile fun c => !isMark c
  let exponent ←
    match word.dropWhile fun c => !isMark c with
    | [] => some 0
    | _ :: rest => exponent? rest
  let whole := mantissa.takeWhile (· != '.')
  let fraction := (mantissa.dropWhile (· != '.')).drop 1
  let significand ← Text.digits? 10 (whole ++ fraction)
  some ⟨significand, exponent - fraction.length⟩

/-- The exponent of ten just above the number: it lies below ten to this power, and not below a
    tenth of that. -/
def magnitude (number : Decimal) : Int :=
  (Text.decimal number.significand).length + number.exponent

/-- The least number that double precision rounds to infinity. -/
def infinityBound : Nat := Nat.pow 2 1024 - Nat.pow 2 970

/-- Whether a decimal number is finite in double precision. The number of digits decides all but
    the numbers near the bound. -/
def isFinite (number : Decimal) : Bool :=
  if number.significand = 0 ∨ number.magnitude < 300 then true
  else if 320 < number.magnitude then false
  else if 0 ≤ number.exponent then
    number.significand * Nat.pow 10 number.exponent.toNat < infinityBound
  else number.significand < infinityBound * Nat.pow 10 (-number.exponent).toNat

end Decimal

end FlashMarkup
