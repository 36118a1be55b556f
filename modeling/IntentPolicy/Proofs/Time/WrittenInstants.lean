import IntentPolicy.Proofs.Number.DigitOrder
import IntentPolicy.Proofs.Time.DayNumbers
import IntentPolicy.Proofs.Time.InstantOrder
import IntentPolicy.Text.Split

namespace IntentPolicy

/-!
# Written instants

An instant is written in fields of fixed width, cut to whole microseconds.  What is written
reads back as the cut instant, and written instants are ordered as texts like they are ordered
in time.
-/

/-- A field of digits is read off the front. -/
theorem takeDigits?_paddedDigits
    {width value : Nat}
    (someWidth : 0 < width)
    (fits : value < tenTo width)
    (rest : List Char) :
    takeDigits? width (paddedDigits width value ++ rest) = some (value, rest) := by
  have length := length_paddedDigits someWidth fits
  have front : (paddedDigits width value ++ rest).take width = paddedDigits width value := by
    rw [List.take_append_of_le_length (Nat.le_of_eq length.symm), List.take_of_length_le]
    exact Nat.le_of_eq length
  have behind : (paddedDigits width value ++ rest).drop width = rest := by
    rw [List.drop_append_of_le_length (Nat.le_of_eq length.symm), List.drop_of_length_le]
    · rfl
    · exact Nat.le_of_eq length
  have areDigits : (paddedDigits width value).all Char.isDigit = true :=
    List.all_eq_true.mpr fun _ member => isDigit_of_mem_paddedDigits member
  rw [takeDigits?, front, behind, if_pos ⟨length, areDigits⟩, digitsValue_paddedDigits]

/-- Numbers in fields of given widths, each with its mark behind it. -/
def writtenFields : List (Nat × Char) → List Nat → List Char
  | (width, mark) :: shape, value :: values =>
      paddedDigits width value ++ mark :: writtenFields shape values
  | _, _ => []

/-- Every number has room in its field. -/
def FitsFields (shape : List (Nat × Char)) (values : List Nat) : Prop :=
  List.Forall₂ (fun field value => 0 < field.1 ∧ value < tenTo field.1) shape values

/-- Fields are ordered by the first number in which they differ. -/
theorem writtenFields_lt
    {shape : List (Nat × Char)}
    {left right : List Nat}
    (leftFits : FitsFields shape left)
    (rightFits : FitsFields shape right)
    (ordered : left < right) :
    writtenFields shape left < writtenFields shape right := by
  induction leftFits generalizing right with
  | nil =>
      cases rightFits
      exact (List.lt_irrefl _ ordered).elim
  | @cons field first shape left fitsHere _ inductionHypothesis =>
      cases rightFits with
      | @cons _ second _ right secondFits rightFits =>
          rw [writtenFields, writtenFields]
          rcases List.cons_lt_cons_iff.mp ordered with before | ⟨rfl, behind⟩
          · apply append_lt_append_of_lt
            · rw [length_paddedDigits fitsHere.1 fitsHere.2,
                length_paddedDigits secondFits.1 secondFits.2]
            · exact paddedDigits_lt fitsHere.1 fitsHere.2 secondFits.2 before
          · apply List.append_left_lt
            exact List.cons_lt_cons_iff.mpr (Or.inr ⟨rfl, inductionHypothesis rightFits behind⟩)

namespace Instant

/-- The year of an instant, in UTC. -/
def year (instant : Instant) : Int :=
  (Date.ofDayNumber (instant.second / 86400)).year

/-- An instant that clocks can show: only the last second of a minute has a leap second. -/
structure IsTime (instant : Instant) : Prop where
  nanosecond_lt : instant.nanosecond < 2000000000
  leap : 1000000000 ≤ instant.nanosecond → instant.second % 60 = 59

instance (instant : Instant) : Decidable instant.IsTime :=
  decidable_of_iff (instant.nanosecond < 2000000000 ∧
      (1000000000 ≤ instant.nanosecond → instant.second % 60 = 59))
    ⟨fun ⟨bound, leap⟩ => ⟨bound, leap⟩, fun ⟨bound, leap⟩ => ⟨bound, leap⟩⟩

/-- An instant whose year has four digits. -/
def IsWritable (instant : Instant) : Prop :=
  0 ≤ instant.year ∧ instant.year ≤ 9999

instance (instant : Instant) : Decidable instant.IsWritable :=
  inferInstanceAs (Decidable (0 ≤ instant.year ∧ instant.year ≤ 9999))

/-- The instant cut to whole microseconds. -/
def cut (instant : Instant) : Instant :=
  ⟨instant.second, instant.nanosecond / 1000 * 1000⟩

variable {instant earlier later : Instant}

@[simp]
theorem cut_second (instant : Instant) : instant.cut.second = instant.second := rfl

@[simp]
theorem cut_nanosecond
    (instant : Instant) :
    instant.cut.nanosecond = instant.nanosecond / 1000 * 1000 := rfl

theorem eq_of_parts
    (sameSecond : earlier.second = later.second)
    (sameNanosecond : earlier.nanosecond = later.nanosecond) :
    earlier = later := by
  cases earlier
  cases later
  cases sameSecond
  cases sameNanosecond
  rfl

@[simp]
theorem cut_cut (instant : Instant) : instant.cut.cut = instant.cut := by
  apply eq_of_parts
  · rfl
  · rw [cut_nanosecond, cut_nanosecond, Nat.mul_div_cancel _ (by decide)]

/-- What is written of an instant is written of the cut instant. -/
theorem microsecondText_cut (instant : Instant) :
    instant.cut.microsecondText = instant.microsecondText := by
  have value : billion = 1000000000 := rfl
  have sameLeap : billion ≤ instant.cut.nanosecond ↔ billion ≤ instant.nanosecond := by
    rw [cut_nanosecond, value]
    omega
  have sameMicroseconds : instant.cut.nanosecond % billion / 1000 =
      instant.nanosecond % billion / 1000 := by
    rw [cut_nanosecond, value]
    omega
  simp only [microsecondText, secondText, sameMicroseconds, cut_second, sameLeap]

/-- Microseconds are added to the whole microseconds. -/
theorem cut_addMicroseconds
    (instant : Instant)
    (microseconds : Nat) :
    (instant.addMicroseconds microseconds).cut = instant.cut.addMicroseconds microseconds := by
  have parts := instant.addMicroseconds_parts microseconds
  have cutParts := instant.cut.addMicroseconds_parts microseconds
  rw [cut_second, cut_nanosecond] at cutParts
  apply eq_of_parts
  · rw [cut_second]
    split at parts <;> split at cutParts <;> omega
  · rw [cut_nanosecond]
    split at parts <;> split at cutParts <;> omega

theorem IsTime.cut
    (isTime : instant.IsTime) :
    instant.cut.IsTime := by
  have bound := isTime.nanosecond_lt
  have leap := isTime.leap
  constructor <;> rw [cut_nanosecond]
  · omega
  · rw [cut_second]
    omega

theorem IsTime.addMicroseconds
    (isTime : instant.IsTime)
    (microseconds : Nat) :
    (instant.addMicroseconds microseconds).IsTime := by
  have leap := isTime.leap
  have parts := instant.addMicroseconds_parts microseconds
  constructor <;> split at parts <;> omega

/-- The fields of a written instant. -/
def fieldShape : List (Nat × Char) :=
  [(4, '-'), (2, '-'), (2, 'T'), (2, ':'), (2, ':'), (2, '.'), (6, 'Z')]

/-- The numbers in the fields of a written instant. -/
def fieldValues (instant : Instant) : List Nat :=
  let date := Date.ofDayNumber (instant.second / 86400)
  let time := (instant.second % 86400).toNat
  [date.year.toNat, date.month, date.day, time / 3600, time / 60 % 60,
    time % 60 + (if billion ≤ instant.nanosecond then 1 else 0),
    instant.nanosecond % billion / 1000]

theorem monthLength_le
    (year : Int)
    (month : Nat) :
    (monthLengths year)[month]?.getD 0 ≤ 31 := by
  have bounded : ∀ length ∈ monthLengths year, length ≤ 31 := by
    cases leap : isLeapYear year <;> simp [monthLengths, leap]
  cases found : (monthLengths year)[month]? with
  | none => exact Nat.zero_le 31
  | some length => exact bounded length (List.mem_of_getElem? found)

theorem fieldValues_fit
    (isTime : instant.IsTime)
    (writable : instant.IsWritable) :
    FitsFields fieldShape instant.fieldValues := by
  obtain ⟨valid, -⟩ := Date.ofDayNumber_spec (instant.second / 86400)
  simp only [Date.isValid, Bool.and_eq_true, decide_eq_true_eq] at valid
  have short := monthLength_le (Date.ofDayNumber (instant.second / 86400)).year
    ((Date.ofDayNumber (instant.second / 86400)).month - 1)
  obtain ⟨yearNonneg, yearLe⟩ := writable
  rw [year] at yearNonneg yearLe
  have leap := isTime.leap
  have value : billion = 1000000000 := rfl
  have microseconds : instant.nanosecond % billion / 1000 < 1000000 := by
    rw [value]
    omega
  refine .cons ?_ (.cons ?_ (.cons ?_ (.cons ?_ (.cons ?_ (.cons ?_ (.cons ?_ .nil)))))) <;>
    refine ⟨by decide, ?_⟩ <;> simp only [tenTo_eq] <;> (try split) <;> omega

theorem microsecondText_eq
    (writable : instant.IsWritable) :
    instant.microsecondText.toList = writtenFields fieldShape instant.fieldValues := by
  obtain ⟨yearNonneg, yearLe⟩ := writable
  rw [year] at yearNonneg yearLe
  have fourDigits : yearText (Date.ofDayNumber (instant.second / 86400)).year =
      paddedDigits 4 (Date.ofDayNumber (instant.second / 86400)).year.toNat := by
    rw [yearText, if_neg (by omega), if_neg (by omega)]
    congr 1
    omega
  rw [microsecondText, String.toList_ofList, secondText, fourDigits]
  simp [writtenFields, fieldShape, fieldValues]

/-- Later in the day is later by the hour, the minute or the second. -/
theorem clock_lt
    {time later : Nat}
    (ordered : time < later) :
    time / 3600 < later / 3600 ∨ time / 3600 = later / 3600 ∧
      (time / 60 % 60 < later / 60 % 60 ∨
        time / 60 % 60 = later / 60 % 60 ∧ time % 60 < later % 60) := by
  have minutes : time / 60 < later / 60 ∨ time / 60 = later / 60 ∧ time % 60 < later % 60 := by
    omega
  rw [show 3600 = 60 * 60 from rfl, ← Nat.div_div_eq_div_mul, ← Nat.div_div_eq_div_mul]
  generalize time / 60 = minute at minutes ⊢
  generalize later / 60 = laterMinute at minutes ⊢
  omega

/-- A later instant has fields that come later. -/
theorem fieldValues_lt
    (earlierTime : earlier.IsTime)
    (laterTime : later.IsTime)
    (earlierWritable : earlier.IsWritable)
    (ordered : earlier.cut.lt later.cut = true) :
    earlier.fieldValues < later.fieldValues := by
  have value : billion = 1000000000 := rfl
  have earlierYear : 0 ≤ (Date.ofDayNumber (earlier.second / 86400)).year := earlierWritable.1
  rw [lt_iff] at ordered
  rw [cut_second, cut_second, cut_nanosecond, cut_nanosecond] at ordered
  simp only [fieldValues, List.cons_lt_cons_iff, value]
  rcases Int.lt_trichotomy (earlier.second / 86400) (later.second / 86400) with before | same | after
  · rcases Date.ofDayNumber_precedes before with
      yearBefore | ⟨sameYear, monthBefore | ⟨sameMonth, dayBefore⟩⟩
    · exact Or.inl (by omega)
    · exact Or.inr ⟨congrArg Int.toNat sameYear, Or.inl monthBefore⟩
    · exact Or.inr ⟨congrArg Int.toNat sameYear, Or.inr ⟨sameMonth, Or.inl dayBefore⟩⟩
  · rw [same]
    refine Or.inr ⟨rfl, Or.inr ⟨rfl, Or.inr ⟨rfl, ?_⟩⟩⟩
    rcases ordered with secondBefore | ⟨sameSecond, nanosecondBefore⟩
    · have sameDay : (earlier.second % 86400).toNat < (later.second % 86400).toNat := by omega
      rcases clock_lt sameDay with
        hourBefore | ⟨sameHour, minuteBefore | ⟨sameMinute, secondOfMinuteBefore⟩⟩
      · exact Or.inl hourBefore
      · exact Or.inr ⟨sameHour, Or.inl minuteBefore⟩
      · -- A leap second is the last of its minute, so no other second of it comes behind.
        refine Or.inr ⟨sameHour, Or.inr ⟨sameMinute, Or.inl ?_⟩⟩
        have notLeap : ¬ 1000000000 ≤ earlier.nanosecond := by
          intro isLeap
          have lastSecond := earlierTime.leap isLeap
          omega
        rw [if_neg notLeap]
        exact Nat.lt_of_lt_of_le secondOfMinuteBefore (Nat.le_add_right _ _)
    · rw [sameSecond]
      refine Or.inr ⟨rfl, Or.inr ⟨rfl, ?_⟩⟩
      have laterBound := laterTime.nanosecond_lt
      by_cases earlierLeap : 1000000000 ≤ earlier.nanosecond
      · have laterLeap : 1000000000 ≤ later.nanosecond := by omega
        rw [if_pos earlierLeap, if_pos laterLeap]
        exact Or.inr ⟨rfl, Or.inl (by omega)⟩
      · rw [if_neg earlierLeap]
        by_cases laterLeap : 1000000000 ≤ later.nanosecond
        · rw [if_pos laterLeap]
          exact Or.inl (Nat.lt_succ_self _)
        · rw [if_neg laterLeap]
          exact Or.inr ⟨rfl, Or.inl (by omega)⟩
  · omega

/-- Written instants are ordered as texts like they are in time, to the microsecond. -/
theorem microsecondText_lt
    (earlierTime : earlier.IsTime)
    (laterTime : later.IsTime)
    (earlierWritable : earlier.IsWritable)
    (laterWritable : later.IsWritable)
    (ordered : earlier.cut.lt later.cut = true) :
    earlier.microsecondText < later.microsecondText := by
  rw [String.lt_iff, microsecondText_eq earlierWritable, microsecondText_eq laterWritable]
  exact writtenFields_lt (fieldValues_fit earlierTime earlierWritable)
    (fieldValues_fit laterTime laterWritable)
    (fieldValues_lt earlierTime laterTime earlierWritable ordered)

/-- A fraction of six digits is read off the front. -/
theorem readFraction?_paddedDigits
    {microseconds : Nat}
    (fits : microseconds < 1000000)
    (rest : List Char) :
    readFraction? ('.' :: (paddedDigits 6 microseconds ++ 'Z' :: rest)) =
      some (microseconds * 1000, 'Z' :: rest) := by
  have areDigits : ∀ digit ∈ paddedDigits 6 microseconds, digit.isDigit = true :=
    fun _ member => isDigit_of_mem_paddedDigits member
  have noDigit : ¬ 'Z'.isDigit = true := by decide
  have length : (paddedDigits 6 microseconds).length = 6 := length_paddedDigits (by decide) fits
  obtain ⟨taken, left⟩ := cut_at_first rest areDigits noDigit
  have allKept : (paddedDigits 6 microseconds).take 9 = paddedDigits 6 microseconds :=
    List.take_of_length_le (by omega)
  have notEmpty : (paddedDigits 6 microseconds).isEmpty = false := by
    rw [List.isEmpty_eq_false_iff, ← List.length_pos_iff]
    omega
  rw [readFraction?]
  simp only [taken, left, allKept, notEmpty, length, digitsValue_paddedDigits]
  rfl

/-- A date and a time in UTC make the instant that they count up to. -/
theorem ofFields?_eq_some
    {date : Date}
    {hour minute second fraction : Nat}
    (inRange : isYearInRange date.year = true ∧ date.isValid = true ∧ hour ≤ 23 ∧ minute ≤ 59 ∧
      second ≤ 60)
    (sameSecond : date.dayNumber * 86400 + (hour * 3600 + minute * 60 + min second 59 : Nat) - 0 =
      instant.second)
    (sameNanosecond : fraction + (if second = 60 then billion else 0) = instant.nanosecond)
    (yearInRange : isYearInRange instant.year = true) :
    ofFields? date hour minute second fraction 0 = some instant := by
  obtain ⟨wholeSecond, nanosecond⟩ := instant
  simp only at sameSecond sameNanosecond
  subst sameSecond sameNanosecond
  rw [ofFields?, if_pos inRange]
  exact if_pos yearInRange

/-- The fields of a written instant are those of the cut instant. -/
theorem ofFields?_fieldValues
    (isTime : instant.IsTime)
    (writable : instant.IsWritable) :
    ofFields? (Date.ofDayNumber (instant.second / 86400))
        ((instant.second % 86400).toNat / 3600) ((instant.second % 86400).toNat / 60 % 60)
        ((instant.second % 86400).toNat % 60 + if billion ≤ instant.nanosecond then 1 else 0)
        (instant.nanosecond % billion / 1000 * 1000) 0 =
      some instant.cut := by
  have value : billion = 1000000000 := rfl
  obtain ⟨valid, sameNumber⟩ := Date.ofDayNumber_spec (instant.second / 86400)
  have yearInRange : isYearInRange instant.year = true := by
    obtain ⟨yearNonneg, yearLe⟩ := writable
    simp only [isYearInRange, Bool.and_eq_true, decide_eq_true_eq]
    omega
  have bound := isTime.nanosecond_lt
  have leap := isTime.leap
  refine ofFields?_eq_some ⟨yearInRange, valid, ?_⟩ ?_ ?_ yearInRange
  · split <;> omega
  · rw [sameNumber, cut_second]
    by_cases isLeap : 1000000000 ≤ instant.nanosecond
    · have lastSecond := leap isLeap
      rw [value, if_pos isLeap]
      omega
    · rw [value, if_neg isLeap]
      omega
  · rw [cut_nanosecond, value]
    by_cases isLeap : 1000000000 ≤ instant.nanosecond
    · have lastSecond := leap isLeap
      rw [if_pos isLeap, if_pos (by omega)]
      omega
    · rw [if_neg isLeap, if_neg (by omega)]
      omega

/-- What is written reads back as the cut instant. -/
theorem ofText?_microsecondText
    (isTime : instant.IsTime)
    (writable : instant.IsWritable) :
    ofText? instant.microsecondText = some instant.cut := by
  have fits := fieldValues_fit isTime writable
  have written := microsecondText_eq writable
  simp only [FitsFields, fieldShape, fieldValues, List.forall₂_cons] at fits
  obtain ⟨year, month, day, hour, minute, second, microsecond, -⟩ := fits
  have sameYear : ((Date.ofDayNumber (instant.second / 86400)).year.toNat : Int) =
      (Date.ofDayNumber (instant.second / 86400)).year := Int.toNat_of_nonneg writable.1
  -- Every field is read off the front, and reading goes on behind it.
  have behind {Read Value : Type} {reading : Option Read} {read : Read}
      {next : Read → Option Value} {value : Option Value} (isRead : reading = some read)
      (goesOn : next read = value) : (reading >>= next) = value := by
    rw [isRead]
    exact goesOn
  rw [ofText?, written]
  refine behind (takeDigits?_paddedDigits year.1 year.2 _) (behind rfl ?_)
  refine behind (takeDigits?_paddedDigits month.1 month.2 _) (behind rfl ?_)
  refine behind (takeDigits?_paddedDigits day.1 day.2 _) (behind rfl ?_)
  refine behind (takeDigits?_paddedDigits hour.1 hour.2 _) (behind rfl ?_)
  refine behind (takeDigits?_paddedDigits minute.1 minute.2 _) (behind rfl ?_)
  refine behind (takeDigits?_paddedDigits second.1 second.2 _) ?_
  refine behind (readFraction?_paddedDigits microsecond.2 []) (behind rfl ?_)
  rw [sameYear]
  exact ofFields?_fieldValues isTime writable

/-- A year that needs a sign or a fifth digit is not read back. -/
theorem ofText?_microsecondText_of_not_writable
    (unwritable : ¬ instant.IsWritable) :
    ofText? instant.microsecondText = none := by
  have signed : ∃ sign rest, sign.isDigit = false ∧
      yearText (Date.ofDayNumber (instant.second / 86400)).year = sign :: rest := by
    rw [IsWritable, not_and_or, year] at unwritable
    rw [yearText]
    by_cases negative : (Date.ofDayNumber (instant.second / 86400)).year < 0
    · exact ⟨'-', _, rfl, if_pos negative⟩
    · rw [if_neg negative, if_pos (by omega)]
      exact ⟨'+', _, rfl, rfl⟩
  obtain ⟨sign, rest, noDigit, opening⟩ := signed
  have noYear (behind : List Char) : takeDigits? 4 (sign :: behind) = none := by
    rw [takeDigits?, List.take_succ_cons]
    exact if_neg (by simp [noDigit])
  rw [ofText?, microsecondText, String.toList_ofList, secondText, opening]
  simp only [List.cons_append, noYear]
  rfl

end Instant

end IntentPolicy
