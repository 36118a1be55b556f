import IntentPolicy.Number.Double

namespace IntentPolicy

/-!
# Magnitudes of 64 binary digits

Eleven digits more than a double has, and an exponent without bound.  Every product is the
exact product rounded to 64 digits, a half to the even neighbour.  A power of ten is
reached in steps of a hundred places, of ten places and of one place, so the roundings of
the steps add up.
-/

/-- The magnitude `significand * 2 ^ exponent`. -/
structure Extended where
  significand : Nat
  exponent : Int
  deriving Repr, DecidableEq

namespace Extended

/-- The magnitude of 64 digits nearest to a quotient, a half to the even neighbour. -/
def ofRatio (numerator denominator : Nat) : Extended :=
  if numerator = 0 then ⟨0, 0⟩
  else
    let unit := Double.lastPlace 64 numerator denominator
    let (scaledNumerator, scaledDenominator) := Double.scaleDown numerator denominator unit
    ⟨roundHalfEven scaledNumerator scaledDenominator, unit⟩

/-- The product, rounded. -/
def mul (left right : Extended) : Extended :=
  let product := ofRatio (left.significand * right.significand) 1
  ⟨product.significand, product.exponent + left.exponent + right.exponent⟩

/-- Ten to the given power, or one divided by it, rounded. -/
def ofTens (inverse : Bool) (power : Nat) : Extended :=
  if inverse then ofRatio 1 (tenTo power) else ofRatio (tenTo power) 1

/-- Multiply by a power of ten in steps, the long ones first. -/
def timesTens (number : Extended) (power : Int) : Extended :=
  let step (places : Nat) : Extended → Extended := (mul · (ofTens (power < 0) places))
  let steps := power.natAbs
  let afterHundreds := Nat.repeat (step 100) (steps / 100) number
  let afterTens := Nat.repeat (step 10) (steps % 100 / 10) afterHundreds
  Nat.repeat (step 1) (steps % 10) afterTens

/-- The magnitude as an exact quotient. -/
def ratio (number : Extended) : Nat × Nat :=
  Double.scaleDown number.significand 1 (-number.exponent)

/-- The nearest double; what is above the greatest finite one is infinite. -/
def toDouble (number : Extended) : Double :=
  let (numerator, denominator) := number.ratio
  if (twoTo 53 - 1) * twoTo 971 * denominator < numerator then .infinity false
  else .ofRatio false numerator denominator

end Extended

end IntentPolicy
