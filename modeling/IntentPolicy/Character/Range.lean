namespace IntentPolicy

/-!
# Ranges of code points

The properties of characters are kept as ranges of code points, and what they become as
shifts of code points.
-/

/-- The code points from a first one to a last one. -/
structure CodeRange where
  first : Nat
  last : Nat
  deriving Repr, DecidableEq

namespace CodeRange

/-- The code point lies in the range. -/
def holds (range : CodeRange) (code : Nat) : Bool :=
  range.first ≤ code && code ≤ range.last

/-- The character lies in one of the ranges. -/
def anyHolds (ranges : List CodeRange) (character : Char) : Bool :=
  ranges.any (·.holds character.toNat)

end CodeRange

/-- Code points at equal steps, and the distance at which what they become lies. -/
structure CodeShift where
  first : Nat
  last : Nat
  step : Nat
  distance : Int
  deriving Repr, DecidableEq

namespace CodeShift

/-- The code point is one of those that are shifted. -/
def holds (shift : CodeShift) (code : Nat) : Bool :=
  shift.first ≤ code && code ≤ shift.last && (code - shift.first) % shift.step == 0

/-- What the first shift that holds a character makes of it. -/
def shifted? (shifts : List CodeShift) (character : Char) : Option Char :=
  (shifts.find? (·.holds character.toNat)).map fun shift =>
    Char.ofNat (Int.toNat (character.toNat + shift.distance))

end CodeShift

end IntentPolicy
