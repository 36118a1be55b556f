import IntentPolicy.Text.Blank
import IntentPolicy.Text.LowerCase

namespace IntentPolicy

/-!
# Lower case is settled

What a character is lowered to stays as it is when it is lowered again, and is neither a
blank nor a comma.  The shifts of the table are compared range by range, since going
through every code point would take too long.
-/

/-- The character is no blank and no comma, and is its own lower case. -/
def IsSettled (character : Char) : Prop :=
  isBlank character = false ∧ character ≠ ',' ∧ lowerCase character = [character]

instance (character : Char) : Decidable (IsSettled character) :=
  inferInstanceAs (Decidable (_ ∧ _))

/-- The code points that no shift may lead to: ASCII in front of `a`, blanks and surrogates. -/
def unsettledCodes : List CodeRange :=
  [⟨0, 0x60⟩, ⟨0x85, 0x85⟩, ⟨0xA0, 0xA0⟩, ⟨0x130, 0x130⟩, ⟨0x1680, 0x1680⟩, ⟨0x2000, 0x200A⟩,
    ⟨0x2028, 0x2029⟩, ⟨0x202F, 0x202F⟩, ⟨0x205F, 0x205F⟩, ⟨0x3000, 0x3000⟩, ⟨0xD800, 0xDFFF⟩]

namespace CodeShift

/-- The first code point that a shift leads to. -/
def firstTarget (shift : CodeShift) : Nat :=
  (shift.first + shift.distance).toNat

/-- The last code point that a shift leads to. -/
def lastTarget (shift : CodeShift) : Nat :=
  (shift.last + shift.distance).toNat

/-- The shift leads past every code point of a range. -/
def passes (shift : CodeShift) (range : CodeRange) : Bool :=
  Nat.blt shift.lastTarget range.first || Nat.blt range.last shift.firstTarget

/--
The shift leads to no code point that another one shifts: either the ranges lie apart, or
both go in steps of two and are one apart.
-/
def misses (shift other : CodeShift) : Bool :=
  shift.passes ⟨other.first, other.last⟩ ||
    ((shift.step == 2 || shift.first == shift.last) && other.step == 2 &&
      (shift.firstTarget + other.first) % 2 == 1)

variable {shift other : CodeShift} {code : Nat}

/-- A code point is shifted when it lies in the range and the step leads to it. -/
theorem holds_iff :
    shift.holds code = true ↔
      shift.first ≤ code ∧ code ≤ shift.last ∧ (code - shift.first) % shift.step = 0 := by
  simp [holds, and_assoc]

/-- A range that a shift passes holds nothing that the shift leads to. -/
theorem not_holds_of_passes
    {range : CodeRange}
    (passes : shift.passes range = true)
    (held : shift.holds code = true) :
    range.holds (code + shift.distance).toNat = false := by
  obtain ⟨afterFirst, beforeLast, -⟩ := holds_iff.mp held
  simp only [CodeShift.passes, Bool.or_eq_true, Nat.blt_eq] at passes
  rw [firstTarget, lastTarget] at passes
  simp only [CodeRange.holds, Bool.and_eq_false_iff, decide_eq_false_iff_not]
  omega

/-- A shift that misses another one leads to nothing that the other one shifts. -/
theorem not_holds_of_misses
    (misses : shift.misses other = true)
    (positive : 0 < shift.firstTarget)
    (held : shift.holds code = true) :
    other.holds (code + shift.distance).toNat = false := by
  obtain ⟨afterFirst, beforeLast, onStep⟩ := holds_iff.mp held
  apply Bool.eq_false_iff.mpr
  intro heldByOther
  obtain ⟨afterOther, beforeOther, onOtherStep⟩ := holds_iff.mp heldByOther
  simp only [CodeShift.misses, Bool.or_eq_true, Bool.and_eq_true, beq_iff_eq] at misses
  rcases misses with passes | ⟨⟨stepOrSingle, otherStep⟩, apart⟩
  · have passed := not_holds_of_passes passes held
    simp only [CodeRange.holds, Bool.and_eq_false_iff, decide_eq_false_iff_not] at passed
    omega
  · rw [otherStep] at onOtherStep
    rw [firstTarget] at positive apart
    rcases stepOrSingle with step | single
    · rw [step] at onStep
      omega
    · omega

end CodeShift

/-- Every shift of the table leads past the unsettled code points and all other shifts. -/
theorem caseShifts_settle :
    caseShifts.all (fun shift =>
      unsettledCodes.all shift.passes && decide (shift.lastTarget < 0x110000) &&
        caseShifts.all shift.misses) = true := by
  decide +kernel

/-- A blank that is not in ASCII in front of `a` is one of the unsettled code points. -/
theorem unsettledCodes_of_isBlank
    {character : Char}
    (blank : isBlank character = true) :
    CodeRange.anyHolds unsettledCodes character = true := by
  simp only [isBlank, Bool.or_eq_true, Bool.and_eq_true, decide_eq_true_eq, beq_iff_eq] at blank
  simp only [CodeRange.anyHolds, unsettledCodes, CodeRange.holds, List.any_cons, List.any_nil,
    Bool.or_eq_true, Bool.and_eq_true, decide_eq_true_eq, Bool.or_false]
  omega

/-- A character that is neither unsettled nor shifted is settled. -/
theorem isSettled_of_not_holds
    {character : Char}
    (notUnsettled : CodeRange.anyHolds unsettledCodes character = false)
    (notShifted : ∀ shift ∈ caseShifts, shift.holds character.toNat = false) :
    IsSettled character := by
  have outside :
      ∀ range ∈ unsettledCodes, range.holds character.toNat = false := by
    simpa [CodeRange.anyHolds] using notUnsettled
  have afterCapitals := outside ⟨0, 0x60⟩ (by decide)
  have notDotted := outside ⟨0x130, 0x130⟩ (by decide)
  simp only [CodeRange.holds, Bool.and_eq_false_iff, decide_eq_false_iff_not]
    at afterCapitals notDotted
  have notDottedCode : (character.toNat == 0x130) = false := by
    rw [beq_eq_false_iff_ne]
    omega
  have missed : CodeShift.shifted? caseShifts character = none := by
    rw [CodeShift.shifted?, List.find?_eq_none.mpr, Option.map_none]
    intro shift listed
    simp [notShifted shift listed]
  have alreadyLower : asciiLower character = character := by
    have notCapital : ¬ character ≤ 'Z' := by
      rw [Char.le_def, UInt32.le_iff_toNat_le]
      change ¬ character.toNat ≤ 0x5A
      omega
    exact dif_neg fun isCapital => notCapital isCapital.2
  refine ⟨?_, ?_, ?_⟩
  · apply Bool.eq_false_iff.mpr
    intro blank
    rw [unsettledCodes_of_isBlank blank] at notUnsettled
    cases notUnsettled
  · rintro rfl
    revert afterCapitals
    decide
  · simp only [lowerCase, notDottedCode, missed, alreadyLower, Option.getD_none,
      Bool.false_eq_true, ↓reduceIte, ite_self]

/-- What a shift of the table leads to is settled. -/
theorem isSettled_of_shift
    {shift : CodeShift}
    {code : Nat}
    (listed : shift ∈ caseShifts)
    (held : shift.holds code = true) :
    IsSettled (Char.ofNat (code + shift.distance).toNat) := by
  have checked := List.all_eq_true.mp caseShifts_settle shift listed
  simp only [Bool.and_eq_true, List.all_eq_true, decide_eq_true_eq] at checked
  obtain ⟨⟨passesUnsettled, inRange⟩, missesShifts⟩ := checked
  have outside :
      ∀ range ∈ unsettledCodes, range.holds (code + shift.distance).toNat = false := by
    intro range unsettled
    exact CodeShift.not_holds_of_passes (passesUnsettled range unsettled) held
  have valid : (code + shift.distance).toNat.isValidChar := by
    have notSurrogate := outside ⟨0xD800, 0xDFFF⟩ (by decide)
    simp only [CodeRange.holds, Bool.and_eq_false_iff, decide_eq_false_iff_not] at notSurrogate
    rw [CodeShift.lastTarget] at inRange
    have beforeLast := (CodeShift.holds_iff.mp held).2.1
    simp only [Nat.isValidChar]
    omega
  have sameCode :
      (Char.ofNat (code + shift.distance).toNat).toNat = (code + shift.distance).toNat := by
    rw [Char.ofNat, dif_pos valid]
    rfl
  have positive : 0 < shift.firstTarget := by
    have passesFirst := passesUnsettled ⟨0, 0x60⟩ (by decide)
    simp only [CodeShift.passes, Bool.or_eq_true, Nat.blt_eq] at passesFirst
    omega
  apply isSettled_of_not_holds
  · simpa [CodeRange.anyHolds, sameCode] using outside
  · intro other otherListed
    rw [sameCode]
    exact CodeShift.not_holds_of_misses (missesShifts other otherListed) positive held

/-- Whatever a character other than a blank and a comma is lowered to is settled. -/
theorem isSettled_of_mem_lowerCase
    {character lowered : Char}
    (notBlank : isBlank character = false)
    (notComma : character ≠ ',')
    (member : lowered ∈ lowerCase character) :
    IsSettled lowered := by
  have asciiSettled :
      ∀ code < 0x80, isBlank (Char.ofNat code) = false → Char.ofNat code ≠ ',' →
        IsSettled (asciiLower (Char.ofNat code)) := by
    decide +kernel
  by_cases ascii : character.toNat < 0x80
  · have isLowered : lowered = asciiLower character := by
      simpa [lowerCase, ascii] using member
    have settled := asciiSettled character.toNat ascii
    rw [Char.ofNat_toNat] at settled
    rw [isLowered]
    exact settled notBlank notComma
  · by_cases dotted : character.toNat = 0x130
    · have isPart : lowered = 'i' ∨ lowered = Char.ofNat 0x307 := by
        simpa [lowerCase, dotted] using member
      rcases isPart with rfl | rfl
      · decide
      · decide +kernel
    · have isShifted :
          lowered = (CodeShift.shifted? caseShifts character).getD character := by
        simpa [lowerCase, ascii, dotted] using member
      cases found : caseShifts.find? (·.holds character.toNat) with
      | none =>
          have unchanged : lowered = character := by
            rw [isShifted, CodeShift.shifted?, found, Option.map_none, Option.getD_none]
          rw [unchanged]
          rw [unchanged] at member
          exact ⟨notBlank, notComma, by
            simp [lowerCase, ascii, dotted, CodeShift.shifted?, found]⟩
      | some shift =>
          have moved :
              lowered = Char.ofNat (character.toNat + shift.distance).toNat := by
            rw [isShifted, CodeShift.shifted?, found, Option.map_some, Option.getD_some]
          rw [moved]
          exact isSettled_of_shift (List.mem_of_find?_eq_some found)
                (by simpa using List.find?_some found)

end IntentPolicy
