import IntentPolicy.Time.Calendar
import Mathlib.Algebra.GroupWithZero.Nat

namespace IntentPolicy

/-!
# Dates and day numbers

Every day number has a date of the calendar, the date has that number, and later days have
later dates.
-/

/-- A year is as long as its months. -/
theorem daysBeforeYear_succ
    (year : Int) :
    daysBeforeYear (year + 1) = daysBeforeYear year + ((monthLengths year).sum : Nat) := by
  by_cases leap : isLeapYear year = true
  · have days : (monthLengths year).sum = 366 := by simp [monthLengths, leap]
    rw [days]
    simp only [isLeapYear, Bool.and_eq_true, Bool.or_eq_true, beq_iff_eq, bne_iff_ne] at leap
    simp only [daysBeforeYear]
    omega
  · have days : (monthLengths year).sum = 365 := by simp [monthLengths, leap]
    rw [days]
    simp only [isLeapYear, Bool.and_eq_true, Bool.or_eq_true, beq_iff_eq, bne_iff_ne] at leap
    simp only [daysBeforeYear]
    omega

theorem daysBeforeYear_le
    {earlier later : Int}
    (ordered : earlier ≤ later) :
    daysBeforeYear earlier ≤ daysBeforeYear later := by
  simp only [daysBeforeYear]
  omega

/-- A day lies in the year that is found for it. -/
theorem daysBeforeYear_yearOfDay
    (day : Int) :
    daysBeforeYear (yearOfDay day) ≤ day ∧ day < daysBeforeYear (yearOfDay day + 1) := by
  simp only [yearOfDay]
  split
  · next late =>
      refine ⟨late, ?_⟩
      simp only [daysBeforeYear] at late ⊢
      omega
  · next notLate =>
      split
      · next early =>
          constructor
          · simp only [daysBeforeYear] at early ⊢
            omega
          · rwa [Int.sub_add_cancel]
      · next notEarly => exact ⟨Int.not_lt.mp notEarly, Int.not_le.mp notLate⟩

/-- A day of the year is a day of a month, behind the months before it. -/
theorem splitMonths_spec
    {lengths : List Nat}
    {day : Nat}
    (within : day < lengths.sum) :
    ∃ length, lengths[(splitMonths lengths day).1]? = some length ∧
      (splitMonths lengths day).2 < length ∧
      day = (lengths.take (splitMonths lengths day).1).sum + (splitMonths lengths day).2 := by
  induction lengths generalizing day with
  | nil => cases within
  | cons length lengths inductionHypothesis =>
      rw [splitMonths]
      by_cases here : day < length
      · rw [if_pos here]
        exact ⟨length, rfl, here, by simp⟩
      · rw [if_neg here]
        rw [List.sum_cons] at within
        have withinRest : day - length < lengths.sum := by omega
        obtain ⟨found, isFound, dayLt, dayEq⟩ := inductionHypothesis withinRest
        refine ⟨found, isFound, dayLt, ?_⟩
        simp only [List.take_succ_cons, List.sum_cons]
        omega

/-- Of two days of one year the later is in a later month, or later in one month. -/
theorem splitMonths_lt
    {earlier later : Nat}
    (lengths : List Nat)
    (ordered : earlier < later) :
    (splitMonths lengths earlier).1 < (splitMonths lengths later).1 ∨
      (splitMonths lengths earlier).1 = (splitMonths lengths later).1 ∧
        (splitMonths lengths earlier).2 < (splitMonths lengths later).2 := by
  induction lengths generalizing earlier later with
  | nil => exact Or.inr ⟨rfl, ordered⟩
  | cons length lengths inductionHypothesis =>
      rw [splitMonths, splitMonths]
      by_cases earlierHere : earlier < length
      · rw [if_pos earlierHere]
        by_cases laterHere : later < length
        · rw [if_pos laterHere]
          exact Or.inr ⟨rfl, ordered⟩
        · rw [if_neg laterHere]
          exact Or.inl (Nat.succ_pos _)
      · have orderedBehind : earlier - length < later - length := by omega
        have behind := inductionHypothesis orderedBehind
        rw [if_neg earlierHere, if_neg (by omega)]
        simp only
        omega

namespace Date

/-- The number of a day counts the days of the years and months before it. -/
theorem dayNumber_eq
    (date : Date) :
    date.dayNumber =
      daysBeforeYear date.year + (((monthLengths date.year).take (date.month - 1)).sum : Nat) +
        date.day - 1 - epochDay := by
  have counted (lengths : List Nat) (day : Nat) :
      lengths.foldl (· + ·) day = lengths.sum + day := by
    induction lengths generalizing day with
    | nil => simp
    | cons length lengths inductionHypothesis =>
        rw [List.foldl_cons, inductionHypothesis, List.sum_cons]
        omega
  rw [dayNumber, counted]
  push_cast
  omega

/-- A date is made of the year that holds its day and of a day of that year. -/
theorem ofDayNumber_eq
    (number : Int) :
    ∃ (year : Int) (dayOfYear : Nat), dayOfYear < (monthLengths year).sum ∧
      number + epochDay = daysBeforeYear year + dayOfYear ∧
      ofDayNumber number = ⟨year, (splitMonths (monthLengths year) dayOfYear).1 + 1,
        (splitMonths (monthLengths year) dayOfYear).2 + 1⟩ := by
  obtain ⟨notBefore, before⟩ := daysBeforeYear_yearOfDay (number + epochDay)
  rw [daysBeforeYear_succ] at before
  exact ⟨yearOfDay (number + epochDay),
    (number + epochDay - daysBeforeYear (yearOfDay (number + epochDay))).toNat,
    by omega, by omega, by simp only [ofDayNumber]⟩

/-- The date of a day number is a date of the calendar, and has that number. -/
theorem ofDayNumber_spec
    (number : Int) :
    (ofDayNumber number).isValid = true ∧ (ofDayNumber number).dayNumber = number := by
  obtain ⟨year, dayOfYear, within, numberEq, parts⟩ := ofDayNumber_eq number
  obtain ⟨length, found, dayLt, dayEq⟩ := splitMonths_spec within
  have monthLt : (splitMonths (monthLengths year) dayOfYear).1 < 12 :=
    (List.getElem?_eq_some_iff.mp found).1
  constructor
  · rw [parts, isValid]
    simp only [Nat.add_sub_cancel, found, Option.getD_some, Bool.and_eq_true, decide_eq_true_eq]
    omega
  · rw [dayNumber_eq, parts, Nat.add_sub_cancel]
    dsimp only
    omega

/-- Earlier by the year, by the month in one year, or by the day in one month. -/
def Precedes (left right : Date) : Prop :=
  left.year < right.year ∨ left.year = right.year ∧
    (left.month < right.month ∨ left.month = right.month ∧ left.day < right.day)

/-- Later days have later dates. -/
theorem ofDayNumber_precedes
    {earlier later : Int}
    (ordered : earlier < later) :
    (ofDayNumber earlier).Precedes (ofDayNumber later) := by
  obtain ⟨year, dayOfYear, within, numberEq, parts⟩ := ofDayNumber_eq earlier
  obtain ⟨laterYear, laterDay, laterWithin, laterEq, laterParts⟩ := ofDayNumber_eq later
  rw [parts, laterParts]
  rcases Int.lt_trichotomy year laterYear with before | rfl | after
  · exact Or.inl before
  · refine Or.inr ⟨rfl, ?_⟩
    have daysOrdered : dayOfYear < laterDay := by omega
    have months := splitMonths_lt (monthLengths year) daysOrdered
    simp only
    omega
  · have yearsBefore := daysBeforeYear_le (Int.add_one_le_of_lt after)
    rw [daysBeforeYear_succ] at yearsBefore
    omega

end Date

end IntentPolicy
