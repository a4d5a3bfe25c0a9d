import FlashMarkup.Number.Decimal

/-!
# Numbers in double precision

A finite number is a sign and a significand below 2 ^ 53 times a power of two, so that every
operation is one on integers. A quotient of integers is rounded to the nearest such number, and
of two that are equally near to the one with an even significand.
-/

namespace FlashMarkup

/-- A number in double precision. -/
inductive Double where
  | finite (negative : Bool) (significand : Nat) (exponent : Int)
  | infinite (negative : Bool)
  | notNumber
deriving DecidableEq, Repr

namespace Double

/-- A quotient rounded to the nearest integer, a half to the even one. -/
def roundDiv (numerator denominator : Nat) : Nat :=
  let floor := numerator / denominator
  let twice := 2 * (numerator % denominator)
  if twice < denominator ∨ (twice = denominator ∧ floor % 2 = 0) then floor else floor + 1

/-- A quotient divided by a power of two. -/
def scaled (numerator denominator : Nat) (exponent : Int) : Nat × Nat :=
  if 0 ≤ exponent then (numerator, denominator * Nat.pow 2 exponent.toNat)
  else (numerator * Nat.pow 2 (-exponent).toNat, denominator)

/-- The least exponent of a finite number. -/
def leastExponent : Int := -1074

/-- The greatest exponent of a finite number with a significand of 53 bits. -/
def greatestExponent : Int := 971

/-- The exponent that leaves a quotient at least 2 ^ 52 and below 2 ^ 53, or the least one. -/
def exponentOf (numerator denominator : Nat) : Int :=
  let guess : Int := numerator.log2 - denominator.log2 - 52
  let (above, below) := scaled numerator denominator guess
  max leastExponent (if above / below < Nat.pow 2 52 then guess - 1 else guess)

/-- A significand of at most 2 ^ 53 with its exponent, as a number. -/
def ofParts (negative : Bool) (significand : Nat) (exponent : Int) : Double :=
  let (significand, exponent) :=
    if significand = Nat.pow 2 53 then (Nat.pow 2 52, exponent + 1) else (significand, exponent)
  if greatestExponent < exponent then .infinite negative
  else .finite negative significand exponent

/-- The number nearest to a quotient of integers. -/
def ofRatio (negative : Bool) (numerator denominator : Nat) : Double :=
  if numerator = 0 then .finite negative 0 leastExponent
  else
    let exponent := exponentOf numerator denominator
    let (above, below) := scaled numerator denominator exponent
    ofParts negative (roundDiv above below) exponent

/-- The number nearest to a decimal number. Beyond the magnitudes tested first, it is zero or
    infinite whatever the digits are. -/
def ofDecimal (negative : Bool) (number : Decimal) : Double :=
  if number.significand = 0 ∨ number.magnitude < -330 then .finite negative 0 leastExponent
  else if 330 < number.magnitude then .infinite negative
  else if 0 ≤ number.exponent then
    ofRatio negative (number.significand * Nat.pow 10 number.exponent.toNat) 1
  else ofRatio negative number.significand (Nat.pow 10 (-number.exponent).toNat)

/-- Whether the number is zero, of either sign. -/
def isZero : Double → Bool
  | .finite _ significand _ => significand == 0
  | _ => false

/-- The nearest natural number up to a limit, a half rounded up. Negative numbers count as zero, and
    so does the value that is no number. -/
def toCount (limit : Nat) : Double → Nat
  | .finite true _ _ => 0
  | .finite false significand exponent =>
    let (above, below) := scaled significand 1 (-exponent)
    min limit ((2 * above + below) / (2 * below))
  | .infinite negative => if negative then 0 else limit
  | .notNumber => 0

end Double

end FlashMarkup
