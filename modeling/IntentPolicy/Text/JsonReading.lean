import IntentPolicy.Text.Json

namespace IntentPolicy.Json

/-!
# Reading JSON

A reader for whole JSON texts.  Values may nest 127 deep; a text in quotes holds no bare
controls and no half of a surrogate pair alone.  The reader recurses on a bound for the
characters left, which every step brings down.
-/

/-- The white space of JSON. -/
def isJsonBlank (character : Char) : Bool :=
  character == ' ' || character == '\n' || character == '\t' || character == '\r'

/-- Drop white space at the front. -/
def skipBlanks (characters : List Char) : List Char :=
  characters.dropWhile isJsonBlank

/-- The value of a hexadecimal digit. -/
def hexValue? (digit : Char) : Option Nat :=
  if digit.isDigit then some (digitValue digit)
  else if 'a' ≤ digit ∧ digit ≤ 'f' then some (digit.toNat - 'a'.toNat + 10)
  else if 'A' ≤ digit ∧ digit ≤ 'F' then some (digit.toNat - 'A'.toNat + 10)
  else none

/-- Read the four hexadecimal digits of an escaped code unit. -/
def readCodeUnit? : List Char → Option (Nat × List Char)
  | a :: b :: c :: d :: rest => do
      let high := 16 * (← hexValue? a) + (← hexValue? b)
      let low := 16 * (← hexValue? c) + (← hexValue? d)
      return (256 * high + low, rest)
  | _ => none

/-- Read an escaped code unit and, for a high surrogate, the low one that has to follow. -/
def readUnicodeEscape? (characters : List Char) : Option (Char × List Char) := do
  let (unit, rest) ← readCodeUnit? characters
  if 0xD800 ≤ unit ∧ unit < 0xDC00 then
    match rest with
    | '\\' :: 'u' :: rest => do
        let (low, rest) ← readCodeUnit? rest
        if 0xDC00 ≤ low ∧ low < 0xE000 then
          return (Char.ofNat (0x10000 + (unit - 0xD800) * 0x400 + (low - 0xDC00)), rest)
        else none
    | _ => none
  else if 0xDC00 ≤ unit ∧ unit < 0xE000 then none
  else return (Char.ofNat unit, rest)

/-- The character that a short escape stands for. -/
def shortEscape? : Char → Option Char
  | '"' => some '"'
  | '\\' => some '\\'
  | '/' => some '/'
  | 'b' => some '\x08'
  | 'f' => some '\x0c'
  | 'n' => some '\n'
  | 'r' => some '\r'
  | 't' => some '\t'
  | _ => none

/-- Read a text up to its closing quote, the opening one having been passed. -/
def readQuoted? : Nat → List Char → Option (List Char × List Char)
  | 0, _ => none
  | bound + 1, characters =>
      match characters with
      | '"' :: rest => some ([], rest)
      | '\\' :: 'u' :: rest => do
          let (character, rest) ← readUnicodeEscape? rest
          let (following, rest) ← readQuoted? bound rest
          return (character :: following, rest)
      | '\\' :: mark :: rest => do
          let character ← shortEscape? mark
          let (following, rest) ← readQuoted? bound rest
          return (character :: following, rest)
      | character :: rest => do
          if character.toNat < 0x20 ∨ character = '\\' then none
          else
            let (following, rest) ← readQuoted? bound rest
            return (character :: following, rest)
      | [] => none

/-- An integer that a word of 64 bits, signed or not, can hold. -/
def isWordSized (value : Int) : Bool :=
  -(twoTo 63 : Int) ≤ value && value < twoTo 64

/-- Split off the characters of a number, refusing a leading zero and lone marks.  A negative
zero and an integer beyond 64 bits are doubles. -/
def readNumber? (characters : List Char) : Option (Json × List Char) := do
  let isNumeric (character : Char) : Bool :=
    character.isDigit || character == '-' || character == '+' || character == '.' ||
      character == 'e' || character == 'E'
  let literal := characters.takeWhile isNumeric
  let rest := characters.dropWhile isNumeric
  let unsigned := match literal with
    | '-' :: digits => digits
    | digits => digits
  let whole := unsigned.takeWhile Char.isDigit
  let tail := unsigned.dropWhile Char.isDigit
  if whole.isEmpty ∨ (whole.head? = some '0' ∧ whole.length ≠ 1) then none
  else if tail.isEmpty then
    let negative := literal.head? = some '-'
    let magnitude : Int := digitsValue whole
    let value := if negative then -magnitude else magnitude
    if isWordSized value ∧ !(negative ∧ value = 0) then return (.integer value, rest)
    else return (.real (.ofLiteral ⟨negative, digitsValue whole, 0⟩), rest)
  else
    let fraction := (DecimalLiteral.splitFraction tail).1
    if tail.head? = some '.' ∧ fraction.isEmpty then none
    else
      let number ← DecimalLiteral.read? literal
      return (.real (.ofLiteral number), rest)

/-- Take a fixed word off the front. -/
def readWord? (word : String) (value : Json) (characters : List Char) :
    Option (Json × List Char) :=
  if word.toList.isPrefixOf characters then some (value, characters.drop word.length) else none

mutual

/-- Read one value. -/
def readValue? (bound depth : Nat) (characters : List Char) : Option (Json × List Char) :=
  match bound with
  | 0 => none
  | bound + 1 =>
      match skipBlanks characters with
      | '"' :: rest => do
          let (value, rest) ← readQuoted? (rest.length + 1) rest
          return (.text (String.ofList value), rest)
      | '[' :: rest =>
          match depth, skipBlanks rest with
          | 0, _ => none
          | _, ']' :: rest => some (.array [], rest)
          | depth + 1, rest => do
              let (items, rest) ← readItems? bound depth rest
              return (.array items, rest)
      | '\x7b' :: rest =>
          match depth, skipBlanks rest with
          | 0, _ => none
          | _, '\x7d' :: rest => some (.object [], rest)
          | depth + 1, rest => do
              let (fields, rest) ← readFields? bound depth rest
              return (.object fields, rest)
      | 'n' :: rest => readWord? "null" .null ('n' :: rest)
      | 't' :: rest => readWord? "true" (.bool true) ('t' :: rest)
      | 'f' :: rest => readWord? "false" (.bool false) ('f' :: rest)
      | rest => readNumber? rest

/-- Read the items of an array up to its end. -/
def readItems? (bound depth : Nat) (characters : List Char) : Option (List Json × List Char) :=
  match bound with
  | 0 => none
  | bound + 1 => do
      let (item, rest) ← readValue? bound depth characters
      match skipBlanks rest with
      | ',' :: rest => do
          let (items, rest) ← readItems? bound depth rest
          return (item :: items, rest)
      | ']' :: rest => return ([item], rest)
      | _ => none

/-- Read the fields of an object up to its end. -/
def readFields? (bound depth : Nat) (characters : List Char) :
    Option (List (String × Json) × List Char) :=
  match bound with
  | 0 => none
  | bound + 1 => do
      let rest ← match skipBlanks characters with
        | '"' :: rest => some rest
        | _ => none
      let (name, rest) ← readQuoted? (rest.length + 1) rest
      let rest ← match skipBlanks rest with
        | ':' :: rest => some rest
        | _ => none
      let (value, rest) ← readValue? bound depth rest
      let field := (String.ofList name, value)
      match skipBlanks rest with
      | ',' :: rest => do
          let (fields, rest) ← readFields? bound depth rest
          return (field :: fields, rest)
      | '\x7d' :: rest => return ([field], rest)
      | _ => none

end

/-- Read a whole text as one value. -/
def ofText? (text : String) : Option Json := do
  let characters := text.toList
  let (value, rest) ← readValue? (2 * characters.length + 2) 127 characters
  if (skipBlanks rest).isEmpty then return value else none

end IntentPolicy.Json
