import IntentPolicy.Number.Digits
import IntentPolicy.Text.Blank

namespace IntentPolicy

/-!
# Fields of written times

The numbers and separators that dates and times are made of.  A strict text gives every
field its full width; a loose one lets blanks stand before a field and leaves out
leading zeros.
-/

/-- Take exactly the given number of ASCII digits off the front. -/
def takeDigits? (count : Nat) (characters : List Char) : Option (Nat × List Char) :=
  let digits := characters.take count
  if digits.length = count ∧ digits.all Char.isDigit then
    some (digitsValue digits, characters.drop count)
  else none

/-- Take one given character off the front. -/
def takeCharacter? (expected : Char) : List Char → Option (List Char)
  | character :: rest => if character = expected then some rest else none
  | [] => none

/-- Take a number of at most the given number of ASCII digits off the front, behind blanks. -/
def takeNumber? (most : Nat) (characters : List Char) : Option (Nat × List Char) :=
  let rest := characters.dropWhile isBlank
  let digits := (rest.takeWhile Char.isDigit).take most
  if digits.isEmpty then none else some (digitsValue digits, rest.drop digits.length)

/-- Take one given character off the front, behind blanks. -/
def takeSeparator? (expected : Char) (characters : List Char) : Option (List Char) :=
  takeCharacter? expected (characters.dropWhile isBlank)

/-- Take a year off the front, behind blanks: up to four digits, or any number behind a sign. -/
def takeYear? (characters : List Char) : Option (Int × List Char) :=
  let signed? (rest : List Char) : Option (Nat × List Char) :=
    let digits := rest.takeWhile Char.isDigit
    if digits.isEmpty then none else some (digitsValue digits, rest.dropWhile Char.isDigit)
  match characters.dropWhile isBlank with
  | '-' :: rest => (signed? rest).map fun (year, rest) => (-(year : Int), rest)
  | '+' :: rest => (signed? rest).map fun (year, rest) => (year, rest)
  | rest => (takeNumber? 4 rest).map fun (year, rest) => (year, rest)

end IntentPolicy
