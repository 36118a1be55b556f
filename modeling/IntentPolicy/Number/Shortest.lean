import IntentPolicy.Number.Double

namespace IntentPolicy.Double

/-!
# Shortest text of a double

A finite double is written with the fewest digits that read back as the same double,
in positional notation without an exponent.  Of two candidates with that many digits
the one nearer to the double is taken.
-/

/-- The number of digits before the point of a positive quotient, negative for leading zeros. -/
def pointPosition (numerator denominator : Nat) : Int :=
  if denominator ≤ numerator then
    (decimalDigits (numerator / denominator)).length
  else
    let reciprocal := (denominator + numerator - 1) / numerator
    1 - ((decimalDigits (reciprocal - 1)).length : Int)

/-- A quotient in units of a power of ten, as a quotient. -/
def inDecimalUnits (numerator denominator : Nat) : Int → Nat × Nat
  | .ofNat power => (numerator, denominator * tenTo power)
  | .negSucc power => (numerator * tenTo (power + 1), denominator)

/-- The double nearest to `count * 10 ^ power`. -/
def ofDecimalUnits (count : Nat) : Int → Double
  | .ofNat power => ofRatio false (count * tenTo power) 1
  | .negSucc power => ofRatio false count (tenTo (power + 1))

/--
The number of units of `10 ^ power` that reads back as the magnitude: of the two
multiples around it the nearer one that does.
-/
def readingBack? (magnitude : Double) (power : Int) : Option Nat :=
  let (numerator, denominator) := magnitude.magnitudeRatio
  let (scaledNumerator, scaledDenominator) := inDecimalUnits numerator denominator power
  let below := scaledNumerator / scaledDenominator
  let remainder := scaledNumerator % scaledDenominator
  let nearest :=
    if 2 * remainder ≤ scaledDenominator then [below, below + 1] else [below + 1, below]
  nearest.find? fun count => (ofDecimalUnits count power).bits == magnitude.bits

/-- The shortest decimal that reads back as a positive finite double: its digits and their power. -/
def shortestDecimal (magnitude : Double) : Nat × Int :=
  let (numerator, denominator) := magnitude.magnitudeRatio
  let position := pointPosition numerator denominator
  let candidates := (List.range 17).filterMap fun digits =>
    let power := position - (digits + 1 : Nat)
    (readingBack? magnitude power).map fun count => (count, power)
  candidates.head?.getD (0, 0)

/-- The positional text of a finite double with the fewest digits that read back. -/
def shortestText (number : Double) : List Char :=
  let sign := if number.isNegative then ['-'] else []
  if number.isNaN then "NaN".toList
  else if !number.isFinite then sign ++ "inf".toList
  else if number.isZero then sign ++ ['0']
  else
    match shortestDecimal (number.withSign false) with
    | (count, .ofNat power) => positionalText number.isNegative (count * tenTo power) 0
    | (count, .negSucc power) =>
        let (mantissa, scale) := dropFractionZeros count (power + 1)
        positionalText number.isNegative mantissa scale

end IntentPolicy.Double
