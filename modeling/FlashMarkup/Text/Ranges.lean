import FlashMarkup.Text.Basic

/-!
# Ranges of characters

Properties of characters are given as tables of ranges of code points. Most texts stay in the basic
plane, so a table is split there and the other half is not searched for them.
-/

namespace FlashMarkup.Text

/-- The characters with some property, as ranges with both ends included. -/
structure Ranges where
  /-- The ranges below 0x10000. -/
  basic : List (Nat × Nat)
  /-- The ranges from 0x10000 on. -/
  supplementary : List (Nat × Nat)

/-- Whether a code point lies in one of several ranges. -/
def inRanges (ranges : List (Nat × Nat)) (code : Nat) : Bool :=
  ranges.any fun (low, high) => low ≤ code && code ≤ high

/-- Whether a character lies in one of the ranges. -/
def Ranges.holds (ranges : Ranges) (c : Char) : Bool :=
  if c.toNat < 0x10000 then inRanges ranges.basic c.toNat
  else inRanges ranges.supplementary c.toNat

end FlashMarkup.Text
