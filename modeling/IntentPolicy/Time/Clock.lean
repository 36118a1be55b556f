import IntentPolicy.Time.Field

namespace IntentPolicy

/-!
# Clock times

Times of day, as they mark the parts of a day, and their text `HH:MM`.
-/

/-- A time of day. -/
structure ClockTime where
  hour : Nat
  minute : Nat
  second : Nat
  deriving Repr, DecidableEq

namespace ClockTime

/-- The seconds since midnight. -/
def sinceMidnight (time : ClockTime) : Nat :=
  time.hour * 3600 + time.minute * 60 + time.second

/-- Strictly earlier in the day. -/
def lt (left right : ClockTime) : Bool :=
  left.sinceMidnight < right.sinceMidnight

/-- Hours and minutes in two digits each. -/
def text (time : ClockTime) : String :=
  String.ofList (paddedDigits 2 time.hour ++ ':' :: paddedDigits 2 time.minute)

/-- Take hours and minutes off the front; blanks may precede each number. -/
def takeHourMinute? (characters : List Char) : Option (Nat × Nat × List Char) := do
  let (hour, rest) ← takeNumber? 2 characters
  let (minute, rest) ← takeNumber? 2 (← takeCharacter? ':' rest)
  if hour ≤ 23 ∧ minute ≤ 59 then return (hour, minute, rest) else none

/-- Read hours and minutes; blanks may surround the text and precede each number. -/
def ofText? (text : String) : Option ClockTime := do
  let (hour, minute, rest) ← takeHourMinute? (trimBlanks text.toList)
  if rest.isEmpty then return ⟨hour, minute, 0⟩ else none

/-- Read hours, minutes and seconds, a leap second among them; blanks may precede each number. -/
def ofLongText? (text : String) : Option ClockTime := do
  let (hour, minute, rest) ← takeHourMinute? text.toList
  let (second, rest) ← takeNumber? 2 (← takeCharacter? ':' rest)
  if rest.isEmpty ∧ second ≤ 60 then return ⟨hour, minute, second⟩ else none

end ClockTime

end IntentPolicy
