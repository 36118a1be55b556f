import IntentPolicy.Text.Split

namespace IntentPolicy

/-!
# Punycode

A label beyond ASCII is written with its ASCII characters, and behind them how far each
of the others lies from the one before it, from the least code point to the greatest.  A
distance is written in digits of varying weight, which a bias fits to the distances so far.
-/

/-- The character is in ASCII. -/
def isAscii (character : Char) : Bool := character.toNat < 0x80

namespace Punycode

/-- One of the thirty-six digits: the letters, then the decimal digits. -/
def digitOf (value : Nat) : Char :=
  Char.ofNat (if value < 26 then 'a'.toNat + value else '0'.toNat + value - 26)

/-- The value of one of the thirty-six digits. -/
def digitValueOf? (digit : Char) : Option Nat :=
  if 'a' ≤ digit ∧ digit ≤ 'z' then some (digit.toNat - 'a'.toNat)
  else if digit.isDigit then some (digit.toNat - '0'.toNat + 26)
  else none

/-- The digits below this value end a number, at a place and under a bias. -/
def threshold (place bias : Nat) : Nat :=
  max 1 (min 26 (place - bias))

/-- Bring a distance below 456 by divisions, with the places that this skips. -/
def settle (distance : Nat) : Nat × Nat :=
  if 455 < distance then
    let (places, rest) := settle (distance / 35)
    (places + 36, rest)
  else (0, distance)
termination_by distance
decreasing_by exact Nat.div_lt_self (by omega) (by omega)

/-- The bias after a distance, given how many characters there are by then. -/
def adapted (distance count : Nat) (isFirst : Bool) : Nat :=
  let damped := if isFirst then distance / 700 else distance / 2
  let (places, rest) := settle (damped + damped / count)
  places + 36 * rest / (rest + 38)

/-- The digits of a distance from a place on. -/
def distanceDigits (bias place distance : Nat) : List Char :=
  let least := threshold place bias
  if distance < least then [digitOf distance]
  else
    digitOf (least + (distance - least) % (36 - least)) ::
      distanceDigits bias (place + 36) ((distance - least) / (36 - least))
termination_by distance
decreasing_by
  have positive : 1 ≤ least := Nat.le_max_left _ _
  exact Nat.lt_of_le_of_lt (Nat.div_le_self _ _) (by omega)

/-- A character to insert, and its place among those that are there by then. -/
structure Insertion where
  code : Nat
  place : Nat
  deriving Repr, DecidableEq

/-- The insertions that make a label out of its ASCII characters, the least code point first. -/
def insertions (label : List Char) : List Insertion :=
  let placed := label.zipIdx.filterMap fun (character, index) =>
    if isAscii character then none
    else
      some ⟨character.toNat, (label.take index).countP fun earlier => earlier ≤ character⟩
  placed.mergeSort fun left right => left.code ≤ right.code

/-- Write insertions, from a code point and a place on, when so many characters are there. -/
def insertionDigits (bias code place count : Nat) (isFirst : Bool) : List Insertion → List Char
  | [] => []
  | insertion :: rest =>
      let distance := (insertion.code - code) * (count + 1) + insertion.place - place
      distanceDigits bias 36 distance ++
        insertionDigits (adapted distance (count + 1) isFirst) insertion.code
          (insertion.place + 1) (count + 1) false rest

/-- The Punycode of a label. -/
def encode (label : List Char) : List Char :=
  let basic := label.filter isAscii
  (if basic.isEmpty then [] else basic ++ ['-']) ++
    insertionDigits 72 0x80 0 basic.length true (insertions label)

/-- Read one distance off the front, from a place and a weight on. -/
def readDistance? (bias place weight distance : Nat) : List Char → Option (Nat × List Char)
  | [] => none
  | character :: rest => do
      let digit ← digitValueOf? character
      let least := threshold place bias
      let reached := distance + digit * weight
      if digit < least then return (reached, rest)
      else readDistance? bias (place + 36) (weight * (36 - least)) reached rest

/-- Read insertions and carry them out, from a code point and a place on. -/
def insertAll? (bound bias code place : Nat) (isFirst : Bool) (label characters : List Char) :
    Option (List Char) :=
  match bound, characters with
  | _, [] => some label
  | 0, _ => none
  | bound + 1, characters => do
      let (distance, rest) ← readDistance? bias 36 1 0 characters
      let count := label.length + 1
      let code := code + (place + distance) / count
      let place := (place + distance) % count
      if code.isValidChar then
        insertAll? bound (adapted distance count isFirst) code (place + 1) false
          (label.take place ++ Char.ofNat code :: label.drop place) rest
      else none

/-- The label that a Punycode stands for. -/
def decode? (characters : List Char) : Option (List Char) :=
  let behind := (characters.reverse.takeWhile (· ≠ '-')).reverse
  let basic := characters.take (characters.length - behind.length - 1)
  insertAll? behind.length 72 0x80 0 true basic behind

end Punycode

end IntentPolicy
