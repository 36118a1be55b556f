namespace IntentPolicy

/-!
# Digits and rounding of quotients

What every number format of the library is built from: the value of a run of ASCII
digits, the digits of a number, plain positional text, and the two ways in which a
quotient is rounded to an integer.
-/

/-- Ten to a power. -/
def tenTo (power : Nat) : Nat := Nat.pow 10 power

/-- Two to a power. -/
def twoTo (power : Nat) : Nat := Nat.pow 2 power

/-- The value of one ASCII digit. -/
def digitValue (digit : Char) : Nat :=
  digit.toNat - '0'.toNat

/-- The value of a run of ASCII digits, most significant digit first. -/
def digitsValue (digits : List Char) : Nat :=
  digits.foldl (fun value digit => 10 * value + digitValue digit) 0

/-- The decimal digits of a number, most significant digit first. -/
def decimalDigits (value : Nat) : List Char :=
  Nat.toDigits 10 value

/-- The decimal digits of a number, filled up with zeros on the left. -/
def paddedDigits (width value : Nat) : List Char :=
  let digits := decimalDigits value
  List.replicate (width - digits.length) '0' ++ digits

/-- The number `mantissa / 10 ^ scale` in positional notation, every digit of the scale shown. -/
def positionalText (negative : Bool) (mantissa scale : Nat) : List Char :=
  let digits := paddedDigits (scale + 1) mantissa
  let whole := digits.take (digits.length - scale)
  let fraction := digits.drop (digits.length - scale)
  (if negative then ['-'] else []) ++ whole ++ (if scale = 0 then [] else '.' :: fraction)

/-- The same number `mantissa / 10 ^ scale` without zeros at the end of its fraction. -/
def dropFractionZeros (mantissa : Nat) : Nat → Nat × Nat
  | 0 => (mantissa, 0)
  | scale + 1 =>
      if mantissa % 10 = 0 then dropFractionZeros (mantissa / 10) scale
      else (mantissa, scale + 1)

/-- The quotient rounded to the nearest integer, a half to the even neighbour. -/
def roundHalfEven (numerator denominator : Nat) : Nat :=
  let quotient := numerator / denominator
  let twice := 2 * (numerator % denominator)
  if twice < denominator then quotient
  else if denominator < twice then quotient + 1
  else quotient + quotient % 2

/-- The quotient rounded to the nearest integer, a half upwards. -/
def roundHalfUp (numerator denominator : Nat) : Nat :=
  (2 * numerator + denominator) / (2 * denominator)

/-- A run of ASCII digits that is not empty, with one leading plus sign allowed. -/
def readUnsigned? (characters : List Char) : Option Nat :=
  let digits := match characters with
    | '+' :: rest => rest
    | rest => rest
  if digits.isEmpty || !digits.all Char.isDigit then none else some (digitsValue digits)

end IntentPolicy
