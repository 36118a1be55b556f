import IntentPolicy.Text.Json

namespace IntentPolicy

/-!
# Identifiers

Identifiers of intents and records: thirty-two hexadecimal digits in five groups, all of
them free but six bits, which say that the others are random.
-/

/-- The lengths of the groups of digits. -/
def identifierGroups : List Nat := [8, 4, 4, 4, 12]

/-- Digits in groups, with hyphens between them. -/
def groupDigits : List Nat → List Char → List Char
  | [], _ => []
  | [length], digits => digits.take length
  | length :: lengths, digits =>
      digits.take length ++ '-' :: groupDigits lengths (digits.drop length)

/-- The identifier that a number of 128 bits gives. -/
def identifierText (number : Nat) : String :=
  let digits := (List.range 32).map fun index =>
    let digit := number / twoTo (4 * (31 - index)) % 16
    Json.hexDigit (if index = 12 then 4 else if index = 16 then 8 + digit % 4 else digit)
  String.ofList (groupDigits identifierGroups digits)

/-- The characters have the form of an identifier. -/
def isIdentifier (characters : List Char) : Bool :=
  let digits := characters.filter (· ≠ '-')
  let isHexDigit (digit : Char) : Bool :=
    digit.isDigit || ('a' ≤ digit.toLower && digit.toLower ≤ 'f')
  digits.length == 32 && digits.all isHexDigit &&
    groupDigits identifierGroups digits == characters

/-- An identifier from a source of random numbers. -/
def randomIdentifier : StateM StdGen String := fun generator =>
  let (number, generator) := randNat generator 0 (twoTo 128 - 1)
  (identifierText number, generator)

end IntentPolicy
