import IntentPolicy.Number.Extended

namespace IntentPolicy

/-!
# Literals read within a word

A quick way to read a literal as a double: of its digits those are kept that fit into a
word of 64 bits, and the power of ten is multiplied in with rounded steps.  The result is
the nearest double where the digits fit and no power of ten is left, and near it otherwise.
-/

/-- The greatest number of 64 bits. -/
def greatestWord : Nat := twoTo 64 - 1

/-- One more digit might not fit into a word. -/
def isFullWord (significand : Nat) : Bool :=
  (greatestWord - 9) / 10 ≤ significand

/-- Read digits until the word is full; the number of digits left out is counted. -/
def takeWholeDigits (significand : Nat) : List Char → Nat × Nat
  | [] => (significand, 0)
  | digit :: rest =>
      let longer := 10 * significand + digitValue digit
      if isFullWord longer then (longer, rest.length) else takeWholeDigits longer rest

/-- Read digits unless the word is full; the number of digits that are read is counted. -/
def takeFractionDigits (significand : Nat) : List Char → Nat × Nat
  | [] => (significand, 0)
  | digit :: rest =>
      if isFullWord significand then (significand, 0)
      else
        let (longer, places) := takeFractionDigits (10 * significand + digitValue digit) rest
        (longer, places + 1)

/-- Multiply by ten while the product has room, at most the given number of times; the
number of times left is given. -/
def absorbTens (significand : Nat) : Nat → Nat × Nat
  | 0 => (significand, 0)
  | places + 1 =>
      if significand < (greatestWord - 2047) / 10 then absorbTens (10 * significand) places
      else (significand, places + 1)

/-- Bring a power of ten into a word as far as that is exact. -/
def settleTens (significand : Nat) : Int → Nat × Int
  | .ofNat places =>
      let (settled, left) := absorbTens significand places
      (settled, left)
  | .negSucc places =>
      let (settled, left) := dropFractionZeros significand (places + 1)
      (settled, -left)

/-- An exponent of more than five digits counts as ten thousand. -/
def boundedExponent (exponent : Int) : Int :=
  if exponent.natAbs < tenTo 5 then exponent else exponent.sign * tenTo 4

namespace Double

/-- The double near the literal of the given parts. -/
def nearLiteral (parts : LiteralParts) : Double :=
  let (whole, leftOut) := takeWholeDigits 0 parts.whole
  let (significand, places) := takeFractionDigits whole parts.fraction
  let magnitude :=
    if significand = 0 then zero
    else
      let exponent := boundedExponent parts.exponent + leftOut - places
      let (settled, power) := settleTens significand exponent
      if power = 0 then ofNat settled
      else ((Extended.ofRatio settled 1).timesTens power).toDouble
  magnitude.withSign parts.negative

end Double

end IntentPolicy
