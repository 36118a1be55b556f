import IntentPolicy.Number.DecimalDouble
import IntentPolicy.Proofs.Number.DoubleRange

namespace IntentPolicy.Decimal

/-!
# Which doubles make decimals

A finite double makes a decimal exactly if it lies below the range of the mantissa.  A double with
a fraction always does, since neither dividing by two nor dropping digits makes a mantissa
greater than the range.
-/

/-- The magnitude bits of the first double beyond the mantissa. -/
def firstTooGreat : Nat := 1119 * 2 ^ 52

theorem exchangeHalves_lt
    {mantissa : Nat}
    (inRange : mantissa < 2 ^ 96)
    (scale halves : Nat) :
    (exchangeHalves mantissa scale halves).1 < 2 ^ 96 := by
  induction halves generalizing mantissa scale with
  | zero => exact inRange
  | succ halves inductionHypothesis =>
      rw [exchangeHalves]
      split
      · next room => exact inductionHypothesis room.2 (scale + 1)
      · exact inductionHypothesis (by omega) scale

theorem dropDigit_lt
    {mantissa : Nat}
    (inRange : mantissa < 2 ^ 96) :
    dropDigit mantissa < 2 ^ 96 := by
  rw [dropDigit]
  split <;> omega

theorem dropToScale_fits
    {mantissa : Nat}
    (inRange : mantissa < 2 ^ 96)
    (scale : Nat) :
    (dropToScale mantissa scale).1 < 2 ^ 96 ∧ (dropToScale mantissa scale).2 ≤ 28 := by
  induction scale generalizing mantissa with
  | zero => exact ⟨inRange, Nat.zero_le 28⟩
  | succ scale inductionHypothesis =>
      rw [dropToScale]
      split
      · next fewPlaces => exact ⟨inRange, fewPlaces⟩
      · split
        · exact ⟨by norm_num, Nat.zero_le 28⟩
        · exact inductionHypothesis (dropDigit_lt inRange)

theorem dropSpurious_fits
    {mantissa scale : Nat}
    (inRange : mantissa < 2 ^ 96)
    (fewPlaces : scale ≤ 28) :
    (dropSpurious mantissa scale).1 < 2 ^ 96 ∧ (dropSpurious mantissa scale).2 ≤ 28 := by
  induction scale generalizing mantissa with
  | zero => exact ⟨inRange, Nat.zero_le 28⟩
  | succ scale inductionHypothesis =>
      rw [dropSpurious]
      split
      · exact inductionHypothesis (dropDigit_lt inRange) (by omega)
      · exact ⟨inRange, fewPlaces⟩

theorem dropFractionZeros_fits
    {mantissa scale : Nat}
    (inRange : mantissa < 2 ^ 96)
    (fewPlaces : scale ≤ 28) :
    (dropFractionZeros mantissa scale).1 < twoTo 96 ∧ (dropFractionZeros mantissa scale).2 ≤ 28 :=
  ⟨(Magnitude.dropFractionZeros_fst_le mantissa scale).trans_lt inRange,
    (Magnitude.dropFractionZeros_snd_le mantissa scale).trans fewPlaces⟩

theorem isSome_ofParts?
    {negative : Bool}
    {mantissa scale : Nat} :
    (ofParts? negative mantissa scale).isSome ↔ mantissa < twoTo 96 ∧ scale ≤ 28 := by
  rw [ofParts?, Option.isSome_map, Magnitude.ofParts?]
  split
  · next inRange => exact iff_of_true rfl inRange
  · next outOfRange => exact iff_of_false (by simp) outOfRange

variable {number : Double}

/-- The significand of a double that is an integer has all its 53 digits. -/
theorem significand_bounds
    {shift : Nat}
    (integer : number.exponent = .ofNat shift) :
    2 ^ 52 ≤ number.significand ∧ number.significand < 2 ^ 53 ∧
      number.magnitudeBits / 2 ^ 52 = 1075 + shift := by
  have field : number.magnitudeBits / 2 ^ 52 = 1075 + shift := by
    simp only [Double.exponent, twoTo_eq, Int.ofNat_eq_natCast] at integer
    omega
  have significandEq : number.significand = 2 ^ 52 + number.magnitudeBits % 2 ^ 52 :=
    if_neg (by rw [twoTo_eq, field]; omega)
  rw [significandEq]
  have small := Nat.mod_lt number.magnitudeBits (Nat.two_pow_pos 52)
  exact ⟨Nat.le_add_right _ _, by omega, field⟩

theorem significand_lt
    (number : Double) :
    number.significand < 2 ^ 53 := by
  have small : number.magnitudeBits % twoTo 52 < 2 ^ 52 :=
    Nat.mod_lt number.magnitudeBits (twoTo_pos 52)
  have implicitOne : twoTo 52 = 2 ^ 52 := rfl
  rw [Double.significand]
  split <;> omega

/-- A finite double makes a decimal exactly below the range of the mantissa. -/
theorem isSome_ofDouble?_iff
    (finite : number.isFinite = true) :
    (ofDouble? number).isSome ↔ number.magnitudeBits < firstTooGreat := by
  rw [ofDouble?, finite]
  simp only [Bool.not_true, Bool.false_eq_true, ↓reduceIte]
  split
  · next isZero =>
      have zeroBits : number.magnitudeBits = 0 := of_decide_eq_true isZero
      rw [zeroBits]
      exact iff_of_true rfl (by decide)
  · split
    · next shift integer =>
        obtain ⟨atLeast, below, field⟩ := significand_bounds integer
        rw [isSome_ofParts?]
        have field_iff : number.magnitudeBits < firstTooGreat ↔ shift ≤ 43 := by
          rw [firstTooGreat, ← Nat.div_lt_iff_lt_mul (Nat.two_pow_pos 52), field]
          omega
        rw [field_iff]
        constructor
        · rintro ⟨fits, -⟩
          by_contra far
          have great := Nat.mul_le_mul atLeast (twoTo_le_twoTo (Nat.lt_of_not_le far))
          exact absurd fits (Nat.not_lt.mpr great)
        · intro near
          have small := Nat.mul_lt_mul_of_lt_of_le below (twoTo_le_twoTo near) (twoTo_pos 43)
          exact ⟨small, Nat.zero_le 28⟩
    · next halves fraction =>
        have halved :=
          exchangeHalves_lt ((significand_lt number).trans (by norm_num)) 0 (halves + 1)
        obtain ⟨scaledFits, scaledFew⟩ :=
          dropToScale_fits halved (exchangeHalves number.significand 0 (halves + 1)).2
        obtain ⟨trimmedFits, trimmedFew⟩ := dropSpurious_fits scaledFits scaledFew
        rw [isSome_ofParts?]
        refine iff_of_true (dropFractionZeros_fits trimmedFits trimmedFew) ?_
        have field : number.magnitudeBits / 2 ^ 52 < 1075 := by
          simp only [Double.exponent, twoTo_eq] at fraction
          omega
        rw [firstTooGreat]
        omega

end IntentPolicy.Decimal
