import IntentPolicy.Text.JsonReading

namespace IntentPolicy.Json

/-!
# Passing over JSON

A value that nobody asks for is passed over by its form alone: it may nest without end,
its numbers may be of any size, and half of a surrogate pair may stand alone in its texts.
-/

/-- Pass over a text up to its closing quote, the opening one having been passed. -/
def skipQuoted? : List Char → Option (List Char)
  | '"' :: rest => some rest
  | '\\' :: 'u' :: a :: b :: c :: d :: rest =>
      if (readCodeUnit? [a, b, c, d]).isSome then skipQuoted? rest else none
  | '\\' :: mark :: rest => if (shortEscape? mark).isSome then skipQuoted? rest else none
  | character :: rest =>
      if character.toNat < 0x20 ∨ character = '\\' then none else skipQuoted? rest
  | [] => none

/-- Pass over at least one digit. -/
def skipDigits? (characters : List Char) : Option (List Char) :=
  if characters.head?.any Char.isDigit then some (characters.dropWhile Char.isDigit) else none

/-- Pass over the fraction of a number, if there is one. -/
def skipFraction? : List Char → Option (List Char)
  | '.' :: rest => skipDigits? rest
  | characters => some characters

/-- Pass over the exponent of a number, if there is one. -/
def skipExponent? : List Char → Option (List Char)
  | mark :: rest =>
      if mark = 'e' ∨ mark = 'E' then
        skipDigits? (if rest.head? = some '+' ∨ rest.head? = some '-' then rest.drop 1 else rest)
      else some (mark :: rest)
  | [] => some []

/-- Pass over a number, which has no zero in front of other digits. -/
def skipNumber? (characters : List Char) : Option (List Char) := do
  let unsigned := if characters.head? = some '-' then characters.drop 1 else characters
  let rest ← skipDigits? unsigned
  if unsigned.head? = some '0' ∧ (unsigned.drop 1).head?.any Char.isDigit then none
  else skipExponent? (← skipFraction? rest)

/-- What encloses a value. -/
inductive Enclosure where
  | array
  | object
  deriving Repr, DecidableEq

/-- What comes next in a value that is passed over. -/
inductive Expected where
  | name
  | value
  | separator
  deriving Repr, DecidableEq

/-- Pass over the name of a field and the colon behind it. -/
def skipName? (characters : List Char) : Option (List Char) := do
  match skipBlanks characters with
  | '"' :: rest =>
      match skipBlanks (← skipQuoted? rest) with
      | ':' :: rest => return rest
      | _ => none
  | _ => none

/-- Pass over what is expected, within values that are still open, the innermost first.
Every step passes over a character, which the bound counts. -/
def skipWithin? (bound : Nat) (expected : Expected) (enclosures : List Enclosure)
    (characters : List Char) : Option (List Char) :=
  match bound, expected, enclosures with
  | _, .separator, [] => some characters
  | 0, _, _ => none
  | bound + 1, .name, _ =>
      match skipName? characters with
      | some rest => skipWithin? bound .value enclosures rest
      | none => none
  | bound + 1, .separator, .array :: outer =>
      match skipBlanks characters with
      | ',' :: rest => skipWithin? bound .value enclosures rest
      | ']' :: rest => skipWithin? bound .separator outer rest
      | _ => none
  | bound + 1, .separator, .object :: outer =>
      match skipBlanks characters with
      | ',' :: rest => skipWithin? bound .name enclosures rest
      | '\x7d' :: rest => skipWithin? bound .separator outer rest
      | _ => none
  | bound + 1, .value, _ =>
      match skipBlanks characters with
      | '[' :: rest =>
          match skipBlanks rest with
          | ']' :: behind => skipWithin? bound .separator enclosures behind
          | inside => skipWithin? bound .value (.array :: enclosures) inside
      | '\x7b' :: rest =>
          match skipBlanks rest with
          | '\x7d' :: behind => skipWithin? bound .separator enclosures behind
          | inside => skipWithin? bound .name (.object :: enclosures) inside
      | rest =>
          let behind := match rest with
            | '"' :: quoted => skipQuoted? quoted
            | 'n' :: _ => (readWord? "null" .null rest).map (·.2)
            | 't' :: _ => (readWord? "true" (.bool true) rest).map (·.2)
            | 'f' :: _ => (readWord? "false" (.bool false) rest).map (·.2)
            | _ => skipNumber? rest
          match behind with
          | some behind => skipWithin? bound .separator enclosures behind
          | none => none

/-- Pass over one value. -/
def skipValue? (characters : List Char) : Option (List Char) :=
  skipWithin? (characters.length + 1) .value [] characters

end IntentPolicy.Json
