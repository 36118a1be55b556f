import IntentPolicy.Configuration.Toml
import IntentPolicy.Text.JsonReading
import IntentPolicy.Time.Instant

namespace IntentPolicy.Toml

/-!
# Scalars of TOML

Readers for the numbers, the moments and the quoted texts of a TOML document.  Line
ends are single line feeds by the time that these readers see them.
-/

/-- The characters that may stand for themselves in a comment or between quotes. -/
def isPlain (character : Char) : Bool :=
  character == '\t' || (0x20 ≤ character.toNat && character.toNat ≠ 0x7F)

/-- Read a run of digits of one base, where an underscore may stand between two of them. -/
def readDigitRun? (isBaseDigit : Char → Bool) (characters : List Char) :
    Option (List Char × List Char) :=
  let isRun (character : Char) : Bool := isBaseDigit character || character == '_'
  let run := characters.takeWhile isRun
  let startsWell := run.head?.any isBaseDigit
  let endsWell := run.getLast?.any isBaseDigit
  let doubled := (run.zip (run.drop 1)).any fun pair => pair.1 == '_' && pair.2 == '_'
  if startsWell && endsWell && !doubled then
    some (run.filter (· ≠ '_'), characters.dropWhile isRun)
  else none

/-- The value of digits in a base. -/
def valueInBase (base : Nat) (digits : List Char) : Nat :=
  digits.foldl (fun value digit => base * value + (Json.hexValue? digit).getD 0) 0

/-- An integer in the range of signed words of 64 bits. -/
def integer? (value : Int) : Option Toml :=
  if -(twoTo 63 : Int) ≤ value ∧ value < twoTo 63 then some (.integer value) else none

/-- Read an integer in another base, after the mark of that base. -/
def readBased? (base : Nat) (characters : List Char) : Option (Toml × List Char) := do
  let isBaseDigit (character : Char) : Bool :=
    (Json.hexValue? character).any (· < base)
  let (digits, rest) ← readDigitRun? isBaseDigit characters
  return (← integer? (valueInBase base digits), rest)

/-- Read the digits before the point, without a leading zero. -/
def readWhole? (characters : List Char) : Option (List Char × List Char) := do
  match characters with
  | '0' :: rest => return (['0'], rest)
  | _ => readDigitRun? Char.isDigit characters

/-- Read the fraction of a number, if a point opens one. -/
def readFraction? (characters : List Char) : Option (List Char × List Char) :=
  match characters with
  | '.' :: rest => (readDigitRun? Char.isDigit rest).map fun (digits, rest) => ('.' :: digits, rest)
  | rest => some ([], rest)

/-- Read the exponent of a number, if there is one. -/
def readExponent? (characters : List Char) : Option (List Char × List Char) :=
  match characters with
  | marker :: rest =>
      if marker = 'e' ∨ marker = 'E' then do
        let sign := rest.takeWhile (fun character => character == '+' || character == '-')
        if 1 < sign.length then none
        else
          let (digits, rest) ← readDigitRun? Char.isDigit (rest.drop sign.length)
          return (marker :: sign ++ digits, rest)
      else some ([], characters)
  | [] => some ([], [])

/-- Read a number in base ten, whole unless a fraction or an exponent follows. -/
def readDecimalNumber? (sign : List Char) (characters : List Char) : Option (Toml × List Char) := do
  let (whole, rest) ← readWhole? characters
  let (fraction, rest) ← readFraction? rest
  let (exponent, rest) ← readExponent? rest
  if fraction.isEmpty && exponent.isEmpty then
    let magnitude : Int := digitsValue whole
    return (← integer? (if sign = ['-'] then -magnitude else magnitude), rest)
  else
    let number ← Double.ofText? (sign ++ whole ++ fraction ++ exponent)
    if number = Double.infinity false then none else return (.real number, rest)

/-- Read a number, after its sign has been split off. -/
def readNumber? (characters : List Char) : Option (Toml × List Char) :=
  let sign := (characters.take 1).filter fun character => character == '+' || character == '-'
  match sign, characters.drop sign.length with
  | [], '0' :: 'x' :: rest => readBased? 16 rest
  | [], '0' :: 'o' :: rest => readBased? 8 rest
  | [], '0' :: 'b' :: rest => readBased? 2 rest
  | sign, 'i' :: 'n' :: 'f' :: rest => some (.real (Double.infinity (sign = ['-'])), rest)
  | sign, 'n' :: 'a' :: 'n' :: rest => some (.real (Double.nan.withSign (sign = ['-'])), rest)
  | sign, rest => readDecimalNumber? sign rest

/-- Read a number of two digits in a range. -/
def readPair? (lowest highest : Nat) (characters : List Char) : Option (Nat × List Char) := do
  let (value, rest) ← takeDigits? 2 characters
  if lowest ≤ value ∧ value ≤ highest then return (value, rest) else none

/-- Read a time of day to the second up to the given hour, with an optional fraction. -/
def readTime? (lastHour : Nat) (characters : List Char) : Option (List Char) := do
  let (_, rest) ← readPair? 0 lastHour characters
  let rest ← takeCharacter? ':' rest
  let (_, rest) ← readPair? 0 59 rest
  let rest ← takeCharacter? ':' rest
  let (_, rest) ← readPair? 0 60 rest
  match rest with
  | '.' :: fraction =>
      if fraction.head?.any Char.isDigit then return fraction.dropWhile Char.isDigit else none
  | _ => return rest

/-- Read the distance to universal time, if there is one. -/
def readZone? (characters : List Char) : Option (List Char) :=
  match characters with
  | 'Z' :: rest => some rest
  | 'z' :: rest => some rest
  | sign :: rest =>
      if sign = '+' ∨ sign = '-' then do
        let (_, rest) ← readPair? 0 23 rest
        let rest ← takeCharacter? ':' rest
        let (_, rest) ← readPair? 0 59 rest
        return rest
      else some characters
  | [] => some []

/-- Read a date of the calendar. -/
def readDate? (characters : List Char) : Option (List Char) := do
  let (year, rest) ← takeDigits? 4 characters
  let rest ← takeCharacter? '-' rest
  let (month, rest) ← readPair? 1 12 rest
  let rest ← takeCharacter? '-' rest
  let (day, rest) ← takeDigits? 2 rest
  if (Date.mk year month day).isValid then return rest else none

/-- Read a moment: a date, a time, or a date and a time that may name its zone. -/
def readMoment? (characters : List Char) : Option (Toml × List Char) :=
  match readDate? characters with
  | none => (readTime? 23 characters).map fun rest => (.moment, rest)
  | some [] => some (.moment, [])
  | some (mark :: rest) =>
      if mark = 'T' ∨ mark = 't' ∨ mark = ' ' then
        match readTime? 23 rest with
        | some rest => (readZone? rest).map fun rest => (.moment, rest)
        | none => some (.moment, mark :: rest)
      else some (.moment, mark :: rest)

/-- Read the character of an escape by its code, of a fixed count of hexadecimal digits. -/
def readCode? (count : Nat) (characters : List Char) : Option (Char × List Char) :=
  let digits := characters.take count
  let code := valueInBase 16 digits
  if digits.length = count ∧ digits.all (fun digit => (Json.hexValue? digit).isSome) ∧
      code.isValidChar then
    some (Char.ofNat code, characters.drop count)
  else none

/-- Read an escape, after its backslash. -/
def readEscape? : List Char → Option (Char × List Char)
  | 'u' :: rest => readCode? 4 rest
  | 'U' :: rest => readCode? 8 rest
  | '/' :: _ => none
  | mark :: rest => (Json.shortEscape? mark).map fun character => (character, rest)
  | [] => none

/-- Read a text up to its closing quote, the opening one having been passed.

A text in double quotes has escapes, a text in single ones has none. -/
def readLine? (quote : Char) : Nat → List Char → Option (List Char × List Char)
  | 0, _ => none
  | bound + 1, characters =>
      match characters with
      | [] => none
      | character :: rest => do
          if character = quote then return ([], rest)
          else if character = '\\' ∧ quote = '"' then
            let (escaped, rest) ← readEscape? rest
            let (following, rest) ← readLine? quote bound rest
            return (escaped :: following, rest)
          else if isPlain character then
            let (following, rest) ← readLine? quote bound rest
            return (character :: following, rest)
          else none

/-- What is left after an escaped line end and the white space behind it, if there is one. -/
def skipLineEnd? (characters : List Char) : Option (List Char) :=
  match characters.dropWhile fun character => character == ' ' || character == '\t' with
  | '\n' :: rest =>
      some (rest.dropWhile fun character =>
        character == ' ' || character == '\t' || character == '\n')
  | _ => none

/-- Read a text of several lines up to its three closing quotes.

One or two quotes may stand in the text, and also right before the closing ones. -/
def readLines? (quote : Char) : Nat → List Char → Option (List Char × List Char)
  | 0, _ => none
  | bound + 1, characters =>
      let quotes := characters.takeWhile (· = quote)
      if 3 ≤ quotes.length then
        if quotes.length ≤ 5 then
          some (quotes.drop 3, characters.drop quotes.length)
        else none
      else
        match characters with
        | [] => none
        | character :: rest => do
            if character = '\\' ∧ quote = '"' then
              match skipLineEnd? rest with
              | some rest => readLines? quote bound rest
              | none =>
                  let (escaped, rest) ← readEscape? rest
                  let (following, rest) ← readLines? quote bound rest
                  return (escaped :: following, rest)
            else if isPlain character ∨ character = '\n' then
              let (following, rest) ← readLines? quote bound rest
              return (character :: following, rest)
            else none

/-- Read a text in quotes of one kind, of one line. -/
def readQuotedKey? (characters : List Char) : Option (String × List Char) :=
  match characters with
  | quote :: rest =>
      if quote = '"' ∨ quote = '\'' then
        (readLine? quote (rest.length + 1) rest).map fun (value, rest) =>
          (String.ofList value, rest)
      else none
  | [] => none

/-- Read a text in quotes, of one line or, in tripled quotes, of several.

A line end right after the three opening quotes is no part of the text. -/
def readText? (characters : List Char) : Option (Toml × List Char) :=
  match characters with
  | first :: second :: third :: rest =>
      if (first = '"' ∨ first = '\'') ∧ second = first ∧ third = first then
        let body := match rest with
          | '\n' :: rest => rest
          | rest => rest
        (readLines? first (body.length + 1) body).map fun (value, rest) =>
          (.text (String.ofList value), rest)
      else (readQuotedKey? characters).map fun (value, rest) => (.text value, rest)
  | _ => (readQuotedKey? characters).map fun (value, rest) => (.text value, rest)

end IntentPolicy.Toml
