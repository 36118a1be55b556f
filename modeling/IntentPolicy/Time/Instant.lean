import IntentPolicy.Text.LowerCase
import IntentPolicy.Time.Calendar
import IntentPolicy.Time.Field

namespace IntentPolicy

/-!
# Instants

Points in time at the resolution of a nanosecond, and their texts in RFC 3339.  A leap
second belongs to the second before it: its nanoseconds run from one billion on, so the
order by seconds and then nanoseconds is the order in time.
-/

/-- A point in time: whole seconds since 1970 and nanoseconds, which reach one billion in a
leap second. -/
structure Instant where
  second : Int
  nanosecond : Nat
  deriving Repr, DecidableEq

namespace Instant

/-- One billion, the nanoseconds of a second. -/
def billion : Nat := 1000000000

/-- Earlier, or at the same time. -/
def le (left right : Instant) : Bool :=
  left.second < right.second ||
    (left.second == right.second && left.nanosecond ≤ right.nanosecond)

/-- Strictly earlier. -/
def lt (left right : Instant) : Bool :=
  left.second < right.second ||
    (left.second == right.second && left.nanosecond < right.nanosecond)

/-- The instant a number of microseconds later; a leap second is left only at its end. -/
def addMicroseconds (instant : Instant) (microseconds : Nat) : Instant :=
  let seconds := microseconds / 1000000
  let nanoseconds := microseconds % 1000000 * 1000
  let sum := instant.nanosecond + nanoseconds
  if billion ≤ instant.nanosecond ∧ seconds = 0 ∧ sum < 2 * billion then
    ⟨instant.second, sum⟩
  else
    let ordinary := if billion ≤ instant.nanosecond then sum - billion else sum
    ⟨instant.second + seconds + (ordinary / billion : Nat), ordinary % billion⟩

/-- The text of a year: four digits, with a sign outside the years 0 to 9999. -/
def yearText (year : Int) : List Char :=
  let digits := paddedDigits 4 year.natAbs
  if year < 0 then '-' :: digits
  else if 9999 < year then '+' :: digits
  else digits

/-- The text up to the whole second. -/
def secondText (instant : Instant) : List Char :=
  let date := Date.ofDayNumber (instant.second / 86400)
  let time := (instant.second % 86400).toNat
  let second := time % 60 + (if billion ≤ instant.nanosecond then 1 else 0)
  yearText date.year ++ '-' :: paddedDigits 2 date.month ++ '-' :: paddedDigits 2 date.day
    ++ 'T' :: paddedDigits 2 (time / 3600) ++ ':' :: paddedDigits 2 (time / 60 % 60)
    ++ ':' :: paddedDigits 2 second

/-- The text in UTC with the fewest of 0, 3, 6 or 9 fraction digits that lose nothing. -/
def text (instant : Instant) : String :=
  let fraction := instant.nanosecond % billion
  let digits :=
    if fraction = 0 then []
    else if fraction % 1000000 = 0 then '.' :: paddedDigits 3 (fraction / 1000000)
    else if fraction % 1000 = 0 then '.' :: paddedDigits 6 (fraction / 1000)
    else '.' :: paddedDigits 9 fraction
  String.ofList (instant.secondText ++ digits ++ ['Z'])

/-- The text in UTC cut to exactly six fraction digits. -/
def microsecondText (instant : Instant) : String :=
  String.ofList
    (instant.secondText ++ '.' :: paddedDigits 6 (instant.nanosecond % billion / 1000) ++ ['Z'])

/-- Read a fraction of a second, if a point opens one; digits behind the ninth are dropped. -/
def readFraction? : List Char → Option (Nat × List Char)
  | '.' :: rest =>
      let digits := rest.takeWhile Char.isDigit
      if digits.isEmpty then none
      else
        let kept := digits.take 9
        some (digitsValue kept * tenTo (9 - kept.length), rest.dropWhile Char.isDigit)
  | rest => some (0, rest)

/-- Two digits of hours and two of minutes as seconds, with whatever stands between them. -/
def readOffsetClock? (between : List Char → Option (List Char)) (characters : List Char) :
    Option (Nat × List Char) := do
  let (hours, rest) ← takeDigits? 2 characters
  let (minutes, rest) ← takeDigits? 2 (← between rest)
  if hours ≤ 23 ∧ minutes ≤ 59 then return (hours * 3600 + minutes * 60, rest) else none

/-- Read the offset from UTC, in seconds. -/
def readOffset? (between : List Char → Option (List Char)) :
    List Char → Option (Int × List Char)
  | 'Z' :: rest => some (0, rest)
  | 'z' :: rest => some (0, rest)
  | '+' :: rest => (readOffsetClock? between rest).map fun (offset, rest) => (offset, rest)
  | '-' :: rest => (readOffsetClock? between rest).map fun (offset, rest) => (-offset, rest)
  | '\u2212' :: rest => (readOffsetClock? between rest).map fun (offset, rest) => (-offset, rest)
  | _ => none

/-- Read an offset whose hours and minutes any colons and blanks divide, or the name of UTC. -/
def readLooseOffset? (characters : List Char) : Option (Int × List Char) :=
  if asciiLowered (String.ofList (characters.take 3)) = "utc" then some (0, characters.drop 3)
  else
    readOffset? (fun rest => some (rest.dropWhile fun character =>
      character == ':' || isBlank character)) characters

/-- The years that a date can have. -/
def isYearInRange (year : Int) : Bool :=
  -262143 ≤ year && year ≤ 262142

/-- The instant of a date and a time at an offset, if there is such a date and time, also in
UTC. -/
def ofFields? (date : Date) (hour minute second fraction : Nat) (offset : Int) :
    Option Instant :=
  if isYearInRange date.year ∧ date.isValid ∧ hour ≤ 23 ∧ minute ≤ 59 ∧ second ≤ 60 then
    let ordinary := min second 59
    let leap := if second = 60 then billion else 0
    let instant : Instant :=
      ⟨date.dayNumber * 86400 + (hour * 3600 + minute * 60 + ordinary : Nat) - offset,
        fraction + leap⟩
    if isYearInRange (Date.ofDayNumber (instant.second / 86400)).year then some instant else none
  else none

/-- Read a text in RFC 3339; a blank may stand for the letter between date and time. -/
def ofText? (text : String) : Option Instant := do
  let (year, rest) ← takeDigits? 4 text.toList
  let rest ← takeCharacter? '-' rest
  let (month, rest) ← takeDigits? 2 rest
  let rest ← takeCharacter? '-' rest
  let (day, rest) ← takeDigits? 2 rest
  let rest ← match rest with
    | separator :: rest =>
        if separator = 'T' ∨ separator = 't' ∨ separator = ' ' then some rest else none
    | [] => none
  let (hour, rest) ← takeDigits? 2 rest
  let rest ← takeCharacter? ':' rest
  let (minute, rest) ← takeDigits? 2 rest
  let rest ← takeCharacter? ':' rest
  let (second, rest) ← takeDigits? 2 rest
  let (fraction, rest) ← readFraction? rest
  let (offset, rest) ← readOffset? (takeCharacter? ':') rest
  if rest.isEmpty then ofFields? ⟨year, month, day⟩ hour minute second fraction offset
  else none

/-- Read a text whose year may have a sign and whose fields may be short and apart. -/
def ofLooseText? (text : String) : Option Instant := do
  let (year, rest) ← takeYear? text.toList
  let rest ← takeSeparator? '-' rest
  let (month, rest) ← takeNumber? 2 rest
  let rest ← takeSeparator? '-' rest
  let (day, rest) ← takeNumber? 2 rest
  let rest ← match rest with
    | separator :: rest =>
        if separator = 'T' ∨ separator = 't' ∨ separator = ' ' then some rest else none
    | [] => none
  let (hour, rest) ← takeNumber? 2 rest
  let rest ← takeSeparator? ':' rest
  let (minute, rest) ← takeNumber? 2 rest
  let rest ← takeSeparator? ':' rest
  let (second, rest) ← takeNumber? 2 rest
  let (fraction, rest) ← readFraction? rest
  let (offset, rest) ← readLooseOffset? (rest.dropWhile isBlank)
  if rest.all isBlank then ofFields? ⟨year, month, day⟩ hour minute second fraction offset
  else none

end Instant

end IntentPolicy
