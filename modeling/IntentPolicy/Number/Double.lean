import IntentPolicy.Number.Literal
import IntentPolicy.Text.LowerCase

namespace IntentPolicy

/-!
# Binary floating-point numbers of 64 bits

A double is its bit pattern.  All reading and arithmetic goes through exact
quotients of natural numbers, which `Double.ofRatio` rounds to the nearest double,
a half to the even neighbour.
-/

/-- A binary floating-point number of 64 bits, held as its bit pattern. -/
structure Double where
  bits : UInt64
  deriving Repr, DecidableEq

namespace Double

/-- The bits below the sign, which order the numbers of one sign. -/
def magnitudeBits (number : Double) : Nat :=
  number.bits.toNat % twoTo 63

/-- The sign bit. -/
def isNegative (number : Double) : Bool :=
  twoTo 63 ≤ number.bits.toNat

/-- The magnitude bits of an infinity, above all finite ones and below those of a NaN. -/
def infinityBits : Nat :=
  2047 * twoTo 52

/-- Not a number. -/
def isNaN (number : Double) : Bool :=
  infinityBits < number.magnitudeBits

/-- Neither infinite nor a NaN. -/
def isFinite (number : Double) : Bool :=
  number.magnitudeBits < infinityBits

/-- Either of the two zeros. -/
def isZero (number : Double) : Bool :=
  number.magnitudeBits = 0

/-- The double with the given sign and magnitude bits. -/
def ofMagnitudeBits (negative : Bool) (magnitude : Nat) : Double :=
  ⟨UInt64.ofNat ((if negative then twoTo 63 else 0) + magnitude)⟩

/-- The positive zero. -/
def zero : Double := ofMagnitudeBits false 0

/-- The infinity of the given sign. -/
def infinity (negative : Bool) : Double :=
  ofMagnitudeBits negative infinityBits

/-- The quiet NaN. -/
def nan : Double := ofMagnitudeBits false (infinityBits + twoTo 51)

/-- The integer that the double's unit in the last place is multiplied with. -/
def significand (number : Double) : Nat :=
  let fraction := number.magnitudeBits % twoTo 52
  if number.magnitudeBits / twoTo 52 = 0 then fraction else twoTo 52 + fraction

/-- The binary exponent of the double's unit in the last place. -/
def exponent (number : Double) : Int :=
  (max (number.magnitudeBits / twoTo 52) 1 : Nat) - (1075 : Int)

/-- The exact magnitude of a finite double as a quotient. -/
def magnitudeRatio (number : Double) : Nat × Nat :=
  match number.exponent with
  | .ofNat shift => (number.significand * twoTo shift, 1)
  | .negSucc shift => (number.significand, twoTo (shift + 1))

/-- A quotient divided by a power of two, as a quotient. -/
def scaleDown (numerator denominator : Nat) : Int → Nat × Nat
  | .ofNat shift => (numerator, denominator * twoTo shift)
  | .negSucc shift => (numerator * twoTo (shift + 1), denominator)

/-- The exponent of the unit in the last place of a positive quotient that is written with the
given number of binary digits. -/
def lastPlace (precision numerator denominator : Nat) : Int :=
  let guess : Int := (numerator.log2 : Int) - denominator.log2 - precision
  let (scaledNumerator, scaledDenominator) := scaleDown numerator denominator guess
  if scaledNumerator / scaledDenominator < twoTo precision then guess else guess + 1

/-- The exponent of the unit in the last place of the doubles around a positive quotient. -/
def unitExponent (numerator denominator : Nat) : Int :=
  max (lastPlace 53 numerator denominator) (-1074)

/-- The double nearest to a quotient, a half to the even neighbour, infinite when out of range. -/
def ofRatio (negative : Bool) (numerator denominator : Nat) : Double :=
  if numerator = 0 then ofMagnitudeBits negative 0
  else
    let unit := unitExponent numerator denominator
    let (scaledNumerator, scaledDenominator) := scaleDown numerator denominator unit
    let significand := roundHalfEven scaledNumerator scaledDenominator
    ofMagnitudeBits negative (min ((unit + 1074).toNat * twoTo 52 + significand) infinityBits)

/-- The double nearest to a natural number. -/
def ofNat (value : Nat) : Double :=
  ofRatio false value 1

/-- The double nearest to an integer. -/
def ofInt (value : Int) : Double :=
  ofRatio (value < 0) value.natAbs 1

/--
The double nearest to a literal.  A literal whose first digit stands far outside the
range of doubles is decided by its position alone, so no power of ten grows without bound.
-/
def ofLiteral (literal : DecimalLiteral) : Double :=
  let position : Int := (decimalDigits literal.digits).length + literal.exponent
  if literal.digits = 0 || position < -400 then ofMagnitudeBits literal.negative 0
  else if 400 < position then infinity literal.negative
  else
    match literal.exponent with
    | .ofNat shift => ofRatio literal.negative (literal.digits * tenTo shift) 1
    | .negSucc shift => ofRatio literal.negative literal.digits (tenTo (shift + 1))

/-- The words for values that no digits denote, in any letter case. -/
def ofWord? (negative : Bool) (word : List Char) : Option Double :=
  let lowered := word.map asciiLower
  if lowered = "inf".toList || lowered = "infinity".toList then some (infinity negative)
  else if lowered = "nan".toList then some nan
  else none

/-- Read a literal or one of the words `inf`, `infinity` and `nan`, each with an optional sign. -/
def ofText? (characters : List Char) : Option Double :=
  let (negative, unsigned) := splitSign characters
  match ofWord? negative unsigned with
  | some number => some number
  | none => (DecimalLiteral.read? characters).map ofLiteral

/-- The position of a number that is not a NaN in the order of numbers, one for both zeros. -/
def orderKey (number : Double) : Int :=
  if number.isNegative then -(number.magnitudeBits : Int) else number.magnitudeBits

/-- Equality of numbers: both zeros are equal and a NaN equals nothing. -/
def sameValue (left right : Double) : Bool :=
  !left.isNaN && !right.isNaN && left.orderKey == right.orderKey

/-- The order of numbers, in which a NaN is below nothing and above nothing. -/
def le (left right : Double) : Bool :=
  !left.isNaN && !right.isNaN && left.orderKey ≤ right.orderKey

/-- The sum of two magnitudes. -/
def addMagnitudes (left right : Double) : Double :=
  let (leftNumerator, leftDenominator) := left.magnitudeRatio
  let (rightNumerator, rightDenominator) := right.magnitudeRatio
  ofRatio false
    (leftNumerator * rightDenominator + rightNumerator * leftDenominator)
    (leftDenominator * rightDenominator)

/-- The product of two magnitudes. -/
def mulMagnitudes (left right : Double) : Double :=
  let (leftNumerator, leftDenominator) := left.magnitudeRatio
  let (rightNumerator, rightDenominator) := right.magnitudeRatio
  ofRatio false (leftNumerator * rightNumerator) (leftDenominator * rightDenominator)

/-- The quotient of two magnitudes, the second of which is not zero. -/
def divMagnitudes (left right : Double) : Double :=
  let (leftNumerator, leftDenominator) := left.magnitudeRatio
  let (rightNumerator, rightDenominator) := right.magnitudeRatio
  ofRatio false (leftNumerator * rightDenominator) (leftDenominator * rightNumerator)

/-- The magnitude rounded to an integer, a half upwards. -/
def roundMagnitude (number : Double) : Double :=
  let (numerator, denominator) := number.magnitudeRatio
  ofNat (roundHalfUp numerator denominator)

/-- The same magnitude under the given sign. -/
def withSign (negative : Bool) (number : Double) : Double :=
  ofMagnitudeBits negative number.magnitudeBits

end Double

end IntentPolicy
