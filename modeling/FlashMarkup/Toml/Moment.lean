import FlashMarkup.Number.Decimal

/-!
# Dates and times

A moment is a date, a time, or both, and both together may say how far they are from universal time.
It has one normal text: both are joined by a capital T, a fraction of a second has at most nine
digits and no trailing zeros, and a distance of no hours and minutes has a plus sign.

A moment that stands in a file as it is follows a stricter rule than one that a quoted text spells.
-/

namespace FlashMarkup.Toml

/-- What a moment may be. -/
structure MomentRule where
  /-- The characters that may join a date and a time. -/
  joints : List Char
  greatestHour : Nat
  /-- Whether a number of hours and minutes is a distance from universal time. -/
  isDistance : Nat → Nat → Bool

/-- The rule for moments that stand in a file as they are. -/
def MomentRule.plain : MomentRule :=
  ⟨['T', 't'], 23, fun hours minutes => hours ≤ 23 && minutes ≤ 59⟩

/-- The rule for moments that quoted texts spell. -/
def MomentRule.quoted : MomentRule :=
  ⟨['T', 't', ' '], 24, fun hours minutes => hours * 60 + minutes ≤ 24 * 60⟩

/-- Two digits that spell a number between two bounds. -/
def twoDigits? (low high : Nat) (first second : Char) : Option Nat := do
  let value ← Text.digits? 10 [first, second]
  if low ≤ value ∧ value ≤ high then some value else none

/-- The two digits of a number below a hundred. -/
def digitPair (number : Nat) : Text := [Nat.digitChar (number / 10), Nat.digitChar (number % 10)]

/-- The number of days of a month. -/
def daysOf (year month : Nat) : Nat :=
  if month = 2 then if year % 4 = 0 ∧ (year % 100 ≠ 0 ∨ year % 400 = 0) then 29 else 28
  else if month = 4 ∨ month = 6 ∨ month = 9 ∨ month = 11 then 30
  else 31

/-- The normal text of a date. -/
def date? : Text → Option Text
  | [y, y', y'', y''', '-', m, m', '-', d, d'] => do
    let year ← Text.digits? 10 [y, y', y'', y''']
    let month ← twoDigits? 1 12 m m'
    let _ ← twoDigits? 1 (daysOf year month) d d'
    some [y, y', y'', y''', '-', m, m', '-', d, d']
  | _ => none

/-- The normal text of a fraction of a second. -/
def secondFraction? : Text → Option Text
  | [] => some []
  | '.' :: digits => do
    let _ ← Text.digits? 10 digits
    let kept := ((digits.take 9).reverse.dropWhile (· == '0')).reverse
    some (if kept.isEmpty then [] else '.' :: kept)
  | _ => none

/-- The normal text of a time. -/
def time? (rule : MomentRule) : Text → Option Text
  | h :: h' :: ':' :: m :: m' :: ':' :: s :: s' :: fraction => do
    let _ ← twoDigits? 0 rule.greatestHour h h'
    let _ ← twoDigits? 0 59 m m'
    let _ ← twoDigits? 0 60 s s'
    some ([h, h', ':', m, m', ':', s, s'] ++ (← secondFraction? fraction))
  | _ => none

/-- The normal text of a distance from universal time in minutes. -/
def distanceText (isBehind : Bool) (minutes : Nat) : Text :=
  (if isBehind && minutes != 0 then '-' else '+') ::
    (digitPair (minutes / 60) ++ ':' :: digitPair (minutes % 60))

/-- The normal text of a distance from universal time. -/
def zone? (rule : MomentRule) : Text → Option Text
  | [] => some []
  | ['Z'] => some ['Z']
  | ['z'] => some ['Z']
  | [sign, h, h', ':', m, m'] => do
    let hours ← twoDigits? 0 99 h h'
    let minutes ← twoDigits? 0 99 m m'
    if (sign = '+' ∨ sign = '-') ∧ rule.isDistance hours minutes then
      some (distanceText (sign == '-') (hours * 60 + minutes))
    else none
  | _ => none

/-- The normal text of a time with its distance from universal time. -/
def zonedTime? (rule : MomentRule) (word : Text) : Option Text := do
  let inTime (c : Char) : Bool := c.isDigit || c == ':' || c == '.'
  some ((← time? rule (word.takeWhile inTime)) ++ (← zone? rule (word.dropWhile inTime)))

/-- The normal text of a date, of a time, or of both. -/
def moment? (rule : MomentRule) (word : Text) : Option Text :=
  match word.drop 10 with
  | [] => (date? word).or (time? rule word)
  | c :: rest =>
    match date? (word.take 10) with
    | none => time? rule word
    | some date =>
      if rule.joints.contains c then (zonedTime? rule rest).map fun time => date ++ 'T' :: time
      else none

end FlashMarkup.Toml
