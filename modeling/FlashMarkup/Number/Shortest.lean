import FlashMarkup.Number.Double

/-!
# Shortest decimal texts

A number in double precision is written with the fewest digits that read back as the number, and
among those with the digits nearest to it. The digits stand around a decimal point, however far
away it is; there is no exponent.

All comparisons are between integers. A number is measured in quarters of the last place of its
significand, and so are the two ends of the interval of reals that read back as it.
-/

namespace FlashMarkup.Double

/-- A real number as a count of quarters of the last place, times a power of two. -/
structure Quarters where
  count : Nat
  exponent : Int

/-- The quarters as a quotient of integers. -/
def Quarters.ratio (point : Quarters) : Nat × Nat := scaled point.count 1 (-(point.exponent - 2))

/-- A decimal number as a quotient of integers. -/
def decimalRatio (number : Decimal) : Nat × Nat :=
  if 0 ≤ number.exponent then (number.significand * Nat.pow 10 number.exponent.toNat, 1)
  else (number.significand, Nat.pow 10 (-number.exponent).toNat)

/-- The comparison of two quotients. -/
def compareRatios (first second : Nat × Nat) : Ordering :=
  compare (first.1 * second.2) (second.1 * first.2)

/-- The lower end of the interval that reads back as a number. Below a power of two the next
    number is only half as far away. -/
def lowerEnd (significand : Nat) (exponent : Int) : Quarters :=
  if significand = Nat.pow 2 52 ∧ leastExponent < exponent then ⟨4 * significand - 1, exponent⟩
  else ⟨4 * significand - 2, exponent⟩

/-- The upper end of the interval that reads back as a number. -/
def upperEnd (significand : Nat) (exponent : Int) : Quarters := ⟨4 * significand + 2, exponent⟩

/-- Whether a decimal number reads back as the number. The ends of the interval do if the
    significand is even. -/
def readsBack (significand : Nat) (exponent : Int) (candidate : Decimal) : Bool :=
  let low := compareRatios (decimalRatio candidate) (lowerEnd significand exponent).ratio
  let high := compareRatios (decimalRatio candidate) (upperEnd significand exponent).ratio
  (low == .gt || (low == .eq && significand % 2 == 0)) &&
    (high == .lt || (high == .eq && significand % 2 == 0))

/-- The multiple of a power of ten just below a quotient, or on it. -/
def gridBelow (ratio : Nat × Nat) (place : Int) : Nat :=
  if 0 ≤ place then ratio.1 / (ratio.2 * Nat.pow 10 place.toNat)
  else ratio.1 * Nat.pow 10 (-place).toNat / ratio.2

/-- The place of the first digit of a quotient that is at least 5e-324, as an exponent of ten. -/
def firstPlace (ratio : Nat × Nat) : Int :=
  (Text.decimal (gridBelow ratio (-400))).length - 1 - 400

/-- The nearest multiple of a power of ten that reads back as the number, if there is one; the
    upper one of two that are equally near. -/
def onGrid? (significand : Nat) (exponent : Int) (place : Int) : Option Decimal :=
  let ratio := (Quarters.mk (4 * significand) exponent).ratio
  let below : Decimal := ⟨gridBelow ratio place, place⟩
  let above : Decimal := ⟨below.significand + 1, place⟩
  let middle := decimalRatio ⟨10 * below.significand + 5, place - 1⟩
  let hits := readsBack significand exponent
  if hits below && (compareRatios ratio middle == .lt || !hits above) then some below
  else if hits above then some above
  else none

/-- The fewest digits that read back as a positive number, which are never more than seventeen. The
    first grid lies one place above the first digit, because a number just below a power of ten may
    read back from that power. -/
def shortest (significand : Nat) (exponent : Int) : Decimal :=
  let first := firstPlace (Quarters.mk (4 * significand) exponent).ratio + 1
  ((List.range 18).findSome? fun (count : Nat) =>
    onGrid? significand exponent (first - count)).getD ⟨significand, exponent⟩

/-- The digits of a decimal number around its point, which is left out behind the last digit. -/
def positional (number : Decimal) : Text :=
  let digits := Text.decimal number.significand
  if 0 ≤ number.exponent then digits ++ List.replicate number.exponent.toNat '0'
  else
    let places := (-number.exponent).toNat
    if places < digits.length then
      digits.take (digits.length - places) ++ "." ++ digits.drop (digits.length - places)
    else "0." ++ List.replicate (places - digits.length) '0' ++ digits

/-- The text of a number without its sign. -/
def magnitudeText (significand : Nat) (exponent : Int) : Text :=
  if significand = 0 then "0" else positional (shortest significand exponent)

/-- The text of a number. -/
def toText : Double → Text
  | .finite true significand exponent => '-' :: magnitudeText significand exponent
  | .finite false significand exponent => magnitudeText significand exponent
  | .infinite true => "-inf"
  | .infinite false => "inf"
  | .notNumber => "NaN"

/-- The text of a number that always shows a point if the number is finite. -/
def toPointText (number : Double) : Text :=
  match number with
  | .finite _ _ _ =>
    if number.toText.contains '.' then number.toText else number.toText ++ ".0"
  | _ => number.toText

end FlashMarkup.Double
