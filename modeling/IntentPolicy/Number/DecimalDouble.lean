import IntentPolicy.Number.DecimalReading
import IntentPolicy.Number.Double

namespace IntentPolicy.Decimal

/-!
# Decimals and doubles

The approximate way from a double to a decimal, within 96 bits throughout, and the way
back, which goes through the integer part and the fraction separately.
-/

/--
Divide by two to the given power within 96 bits, counting the places of the fraction.
An even mantissa is halved and an odd one multiplied by five, one place further down;
where that would leave the range it is halved too, with a loss.
-/
def exchangeHalves (mantissa scale : Nat) : Nat → Nat × Nat
  | 0 => (mantissa, scale)
  | halves + 1 =>
      if mantissa % 2 = 1 ∧ 5 * mantissa < twoTo 96 then
        exchangeHalves (5 * mantissa) (scale + 1) halves
      else exchangeHalves (mantissa / 2) scale halves

/-- Drop the last digit, rounding up from five on. -/
def dropDigit (mantissa : Nat) : Nat :=
  mantissa / 10 + (if 5 ≤ mantissa % 10 then 1 else 0)

/-- Drop digits until the scale is at most 28; a mantissa that vanishes is zero without a scale. -/
def dropToScale (mantissa : Nat) : Nat → Nat × Nat
  | 0 => (mantissa, 0)
  | scale + 1 =>
      if scale + 1 ≤ 28 then (mantissa, scale + 1)
      else if mantissa / 10 = 0 then (0, 0)
      else dropToScale (dropDigit mantissa) scale

/-- Drop digits of the fraction while the mantissa has more digits than a double can tell apart. -/
def dropSpurious (mantissa : Nat) : Nat → Nat × Nat
  | 0 => (mantissa, 0)
  | scale + 1 =>
      if twoTo 52 ≤ mantissa then dropSpurious (dropDigit mantissa) scale
      else (mantissa, scale + 1)

/-- The decimal near a finite double, if one is in range; an integer is kept exactly. -/
def ofDouble? (number : Double) : Option Decimal :=
  if !number.isFinite then none
  else if number.isZero then some zero
  else
    match number.exponent with
    | .ofNat twos => ofParts? number.isNegative (number.significand * twoTo twos) 0
    | .negSucc halves =>
        let (mantissa, scale) := exchangeHalves number.significand 0 (halves + 1)
        let (fitting, fittingScale) := dropToScale mantissa scale
        let (significant, remaining) := dropSpurious fitting fittingScale
        let (reduced, reducedScale) := dropFractionZeros significant remaining
        ofParts? number.isNegative reduced reducedScale

/-- Ten to a power as a double, by repeated squaring. -/
def powerOfTen (result base : Double) (power : Nat) : Double :=
  let multiplied := if power % 2 = 1 then result.mulMagnitudes base else result
  if power / 2 = 0 then multiplied
  else powerOfTen multiplied (base.mulMagnitudes base) (power / 2)
termination_by power
decreasing_by omega

/--
The double near a decimal: the integer part and the fraction are made doubles apart,
and their sum is rounded to the decimal's number of places.
-/
def toDouble (amount : Decimal) : Double :=
  let power := tenTo amount.scale
  let fraction :=
    (Double.ofNat (amount.mantissa % power)).divMagnitudes (Double.ofNat power)
  let whole := Double.ofNat (amount.mantissa / power)
  let magnitude :=
    if fraction.isZero then whole
    else
      let places := powerOfTen (Double.ofNat 1) (Double.ofNat 10) amount.scale
      (((whole.addMagnitudes fraction).mulMagnitudes places).roundMagnitude).divMagnitudes places
  magnitude.withSign amount.negative

end IntentPolicy.Decimal
