import IntentPolicy.Number.Decimal

namespace IntentPolicy

/-!
# Reading decimals

Digits are taken from left to right.  An integer part that leaves the range is an
error; a fraction is cut at the first digit that no longer fits, and that digit alone
decides whether the last place goes up.  A text that does not read so and holds an
exponent mark is read again as a base and an exponent.
-/

/-- Why a text is not a decimal. -/
inductive DecimalError where
  | empty
  | unknownCharacter
  | secondPoint
  | separatorFirst
  | tooManyDigits
  | roundingOverflow
  | noDigits
  deriving Repr, DecidableEq

/-- The wording of the error. -/
def DecimalError.message : DecimalError → String
  | .empty => "Invalid decimal: empty"
  | .unknownCharacter => "Invalid decimal: unknown character"
  | .secondPoint => "Invalid decimal: two decimal points"
  | .separatorFirst => "Invalid decimal: must start lead with a number"
  | .tooManyDigits => "Invalid decimal: overflow from too many digits"
  | .roundingOverflow => "Invalid decimal: overflow from mantissa after rounding"
  | .noDigits => "Invalid decimal: no digits found"

/-- What a character that cannot stand where it stands is blamed for. -/
def DecimalError.ofCharacter : Char → DecimalError
  | '.' => .secondPoint
  | '_' => .separatorFirst
  | _ => .unknownCharacter

namespace Magnitude

/-- Append a digit to the integer part. -/
def pushWhole? (magnitude : Magnitude) (digit : Nat) : Option Magnitude :=
  ofParts? (10 * magnitude.mantissa + digit) magnitude.scale

/-- Append a digit to the fraction. -/
def pushFraction? (magnitude : Magnitude) (digit : Nat) : Option Magnitude :=
  ofParts? (10 * magnitude.mantissa + digit) (magnitude.scale + 1)

/--
Raise the last place by one.  A mantissa that would leave the range gives up its last
place, rounded half up; without a fraction there is no place to give up.
-/
def roundUp? (magnitude : Magnitude) : Option Magnitude :=
  match ofParts? (magnitude.mantissa + 1) magnitude.scale with
  | some raised => some raised
  | none =>
      if magnitude.scale = 0 then none
      else ofParts? ((magnitude.mantissa + 5) / 10) (magnitude.scale - 1)

/-- Round by the first character that no longer fits; the rest only has to be well formed. -/
def roundBy (magnitude : Magnitude) (character : Char) (rest : List Char) :
    Except DecimalError Magnitude :=
  let wellFormed (candidate : Char) : Bool :=
    candidate.isDigit || candidate == '_' || candidate == '.'
  match (character :: rest).find? (fun candidate => !wellFormed candidate) with
  | some stranger => .error (.ofCharacter stranger)
  | none =>
      if character.isDigit && 5 ≤ digitValue character then
        match magnitude.roundUp? with
        | some raised => .ok raised
        | none => .error .roundingOverflow
      else .ok magnitude

/-- Read the fraction, whose point has been passed. -/
def readFraction (magnitude : Magnitude) (digitSeen : Bool) :
    List Char → Except DecimalError Magnitude
  | [] => if digitSeen then .ok magnitude else .error .noDigits
  | character :: rest =>
      if magnitude.scale = 28 then magnitude.roundBy character rest
      else if character.isDigit then
        match magnitude.pushFraction? (digitValue character) with
        | some longer => longer.readFraction true rest
        | none => magnitude.roundBy character rest
      else if character = '_' && digitSeen then magnitude.readFraction digitSeen rest
      else .error (.ofCharacter character)

/-- Read the integer part and, after a point, the fraction. -/
def readWhole (magnitude : Magnitude) (digitSeen : Bool) :
    List Char → Except DecimalError Magnitude
  | [] => if digitSeen then .ok magnitude else .error .noDigits
  | character :: rest =>
      if character.isDigit then
        match magnitude.pushWhole? (digitValue character) with
        | some longer => longer.readWhole true rest
        | none => .error .tooManyDigits
      else if character = '.' then magnitude.readFraction digitSeen rest
      else if character = '_' && digitSeen then magnitude.readWhole digitSeen rest
      else .error (.ofCharacter character)

/-- The magnitude cut to fewer places, a half going up. -/
def cutTo? (magnitude : Magnitude) (scale : Nat) : Option Magnitude :=
  ofParts? (roundHalfUp magnitude.mantissa (tenTo (magnitude.scale - scale))) scale

end Magnitude

namespace Decimal

/-- Read a decimal without an exponent. -/
def readPlain : List Char → Except DecimalError Decimal
  | [] => .error .empty
  | '-' :: rest => (Magnitude.zero.readWhole false rest).map (signed true)
  | '+' :: rest => (Magnitude.zero.readWhole false rest).map (signed false)
  | characters => (Magnitude.zero.readWhole false characters).map (signed false)

/-- The number of digits to drop so that a product fits, if dropping digits can make it fit. -/
def excessDigits? (mantissa scale : Nat) : Option Nat :=
  (List.range' (scale - 28) (scale + 1 - (scale - 28))).find? fun dropped =>
    roundHalfEven mantissa (tenTo dropped) < twoTo 96

/--
The product, with as many digits dropped as it takes to fit, a half to the even
neighbour; none when it does not fit without a fraction either.
-/
def mul? (left right : Decimal) : Option Decimal :=
  let mantissa := left.mantissa * right.mantissa
  let scale := left.scale + right.scale
  if mantissa = 0 then some zero
  else
    (excessDigits? mantissa scale).bind fun dropped =>
      ofParts? (left.negative != right.negative)
        (roundHalfEven mantissa (tenTo dropped)) (scale - dropped)

/--
Divide by a power of ten by moving the point, with the base cut where places run out.  What
is left of the base keeps its sign, be it nothing.
-/
def shiftRight? (cutting : Bool) (base : Decimal) (places : Nat) : Option Decimal :=
  if 28 < places then none
  else if base.scale + places ≤ 28 then
    ofParts? base.negative base.mantissa (base.scale + places)
  else if cutting then
    (base.toMagnitude.cutTo? (28 - places)).bind fun cut =>
      (Magnitude.ofParts? cut.mantissa 28).map fun shifted => ⟨shifted, base.negative⟩
  else none

/-- Multiply by a power of ten, by moving the point while the scale allows it. -/
def shiftLeft? (base : Decimal) (places : Nat) : Option Decimal :=
  if places ≤ base.scale then
    ofParts? base.negative base.mantissa (base.scale - places)
  else if 28 < places then none
  else
    (ofParts? false (tenTo places) 0).bind fun power => (base.mul? power).map normalize

/--
Read a base and an exponent, split at the first exponent mark.  With `cutting` a base
with too many places is rounded, without it there is no result.
-/
def readScientific? (cutting : Bool) (characters : List Char) : Option Decimal :=
  let isMark (character : Char) : Bool := character == 'e' || character == 'E'
  let exponent := (characters.dropWhile (!isMark ·)).drop 1
  if !characters.any isMark then none
  else
    match readPlain (characters.takeWhile (!isMark ·)) with
    | .error _ => none
    | .ok base =>
        match exponent with
        | '-' :: digits => (readUnsigned? digits).bind (shiftRight? cutting base)
        | digits => (readUnsigned? digits).bind base.shiftLeft?

/-- Read a decimal with or without an exponent; an error is that of the plain reading. -/
def ofCharacters (characters : List Char) : Except DecimalError Decimal :=
  match readPlain characters with
  | .ok amount => .ok amount
  | .error error =>
      match readScientific? true characters with
      | some amount => .ok amount
      | none => .error error

/-- Read a decimal with or without an exponent. -/
def ofText (text : String) : Except DecimalError Decimal :=
  ofCharacters text.toList

/-- Read a decimal with or without an exponent, without the reason for a failure. -/
def ofText? (text : String) : Option Decimal :=
  (ofText text).toOption

end Decimal

end IntentPolicy
