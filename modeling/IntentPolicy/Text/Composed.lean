import IntentPolicy.Character.CombiningClass
import IntentPolicy.Character.Composition

namespace IntentPolicy

/-!
# Composed texts

Every text has one composed form: letters and their marks are taken apart, marks of
different classes are put in the order of their classes, and letters are put together
with their marks as far as there are characters for them.
-/

/-- A letter and its marks, each a character; a letter has no more marks than the bound. -/
def takenApart : Nat → Char → List Char
  | 0, character => [character]
  | bound + 1, character =>
      match Hangul.parts? character, decomposition? character with
      | some parts, _ => parts
      | none, some (letter, mark) => takenApart bound letter ++ takenApart bound mark
      | none, none => [character]

/-- The greatest number of marks that one character can carry. -/
def mostMarks : Nat := 4

/-- Put a character in front of others, behind those marks that have to come before it. -/
def placeMark (character : Char) : List Char → List Char
  | [] => [character]
  | next :: rest =>
      if 0 < combiningClass next ∧ combiningClass next < combiningClass character then
        next :: placeMark character rest
      else character :: next :: rest

/-- Put the marks of every letter in the order of their classes. -/
def orderMarks (characters : List Char) : List Char :=
  characters.foldr placeMark []

/-- Put a letter together with marks behind it; the marks that stay stand between them. -/
def putTogether (letter : Char) (staying : List Char) : List Char → List Char
  | [] => letter :: staying
  | next :: rest =>
      let isFree := (staying.getLast?.map combiningClass).all (· < combiningClass next)
      match if isFree then composition? letter next else none with
      | some composed => putTogether composed staying rest
      | none =>
          if combiningClass next = 0 then letter :: (staying ++ putTogether next [] rest)
          else putTogether letter (staying ++ [next]) rest

/-- Put all letters together with their marks. -/
def putAllTogether : List Char → List Char
  | [] => []
  | first :: rest =>
      if combiningClass first = 0 then putTogether first [] rest
      else first :: putAllTogether rest

/-- The composed form of a text. -/
def composedForm (characters : List Char) : List Char :=
  putAllTogether (orderMarks (characters.flatMap (takenApart mostMarks)))

end IntentPolicy
