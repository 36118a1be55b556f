import IntentPolicy.Character.CombiningClass
import IntentPolicy.Character.Direction
import IntentPolicy.Character.Joining
import IntentPolicy.Text.Composed
import IntentPolicy.Web.DomainAlphabet
import IntentPolicy.Web.DomainMapping
import IntentPolicy.Web.Punycode

namespace IntentPolicy

/-!
# Labels of domains

A label beyond ASCII is written as `xn--` and its Punycode.  It opens with no mark, holds
characters that join letters only where these can be joined, and in a domain that is
written from right to left every label keeps to one direction.
-/

namespace Domain

/-- What a character is taken for, if it leaves a trace. -/
def mapped (character : Char) : List Char :=
  if isIgnored character then [] else replacement character

/-- The one form of a text in a domain. -/
def normalForm (characters : List Char) : List Char :=
  composedForm (characters.flatMap mapped)

/-- A label as it is read and as it is written. -/
structure Label where
  characters : List Char
  written : List Char
  deriving Repr, DecidableEq

namespace Label

/-- A letter of the text, marks aside, joins the one that is looked at. -/
def isJoinedBy (joins : Char → Bool) (characters : List Char) : Bool :=
  (characters.dropWhile isTransparentToJoining).head?.any joins

/-- The characters that join letters and keep them apart stand where they have an effect;
what stands before the characters comes in reverse. -/
def joinsProperly (before : List Char) : List Char → Bool
  | [] => true
  | character :: behind =>
      let isPlaced :=
        (character ≠ nonJoiner && character ≠ joiner)
          || (before.head?.map combiningClass) == some viramaClass
          || (character == nonJoiner && isJoinedBy joinsOnward before
            && isJoinedBy joinsBackward behind)
      isPlaced && joinsProperly (character :: before) behind

/-- The characters are those of a label beyond ASCII. -/
def isValid (characters : List Char) : Bool :=
  !characters.any isRefused && !characters.head?.any isMark && joinsProperly [] characters

/-- What stands in front of the Punycode of a label. -/
def punycodeMark : List Char := "xn--".toList

/-- The greatest length of a label beyond ASCII, and of the Punycode of one. -/
def longestLabel : Nat := 1000

/-- The greatest length of a Punycode. -/
def longestPunycode : Nat := 2000

/-- Read a label that is given as its Punycode, which has to be that of a label beyond ASCII. -/
def ofPunycode? (punycode : List Char) : Option Label := do
  let decoded ← Punycode.decode? punycode
  if punycode.length ≤ longestPunycode && !decoded.all isAscii && isValid decoded
      && normalForm decoded == decoded && Punycode.encode decoded == punycode then
    return ⟨decoded, punycodeMark ++ punycode⟩
  else none

/-- Read a label in the one form of its text. -/
def read? (characters : List Char) : Option Label :=
  if punycodeMark.isPrefixOf characters then
    if characters.all isAscii then ofPunycode? (characters.drop punycodeMark.length) else none
  else if characters.all isAscii then some ⟨characters, characters⟩
  else if isValid characters && characters.length ≤ longestLabel then
    some ⟨characters, punycodeMark ++ Punycode.encode characters⟩
  else none

/-- The character makes a domain one that is written from right to left. -/
def isRightward (character : Char) : Bool :=
  [Direction.rightToLeft, .arabicLetter, .arabicNumber].contains (direction character)

/-- The directions that a label can have behind its first character. -/
def followers (isLeftToRight : Bool) : List Direction :=
  [.europeanNumber, .europeanSeparator, .commonSeparator, .europeanTerminator, .otherNeutral,
    .boundaryNeutral, .nonspacingMark] ++
    if isLeftToRight then [.leftToRight] else [.rightToLeft, .arabicLetter, .arabicNumber]

/-- The directions with which a label can end, marks aside. -/
def endings (isLeftToRight : Bool) : List Direction :=
  .europeanNumber ::
    if isLeftToRight then [.leftToRight] else [.rightToLeft, .arabicLetter, .arabicNumber]

/-- The label keeps to one direction, and to one kind of numbers when it goes to the left. -/
def keepsDirection (label : Label) : Bool :=
  match label.characters.map direction with
  | [] => true
  | first :: rest =>
      let isLeftToRight := first == .leftToRight
      let last := (rest.reverse.dropWhile (· = .nonspacingMark)).head?
      (isLeftToRight || first == .rightToLeft || first == .arabicLetter)
        && rest.all ((followers isLeftToRight).contains ·)
        && last.all ((endings isLeftToRight).contains ·)
        && !(rest.contains .europeanNumber && rest.contains .arabicNumber)

end Label

end Domain

end IntentPolicy
