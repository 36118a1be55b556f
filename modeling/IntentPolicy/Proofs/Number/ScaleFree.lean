import IntentPolicy.Proofs.Number.DecimalReading
import IntentPolicy.Proofs.Number.DoubleRange

namespace IntentPolicy

/-!
# The scale of an amount

Two decimals of one value differ by zeros at the end of the fraction.  Normalizing drops these
zeros, and so it does behind a product: a product fits with them exactly if it fits without
them, and drops the same digits of what is left.
-/

/-- A factor of both parts of a quotient makes no difference to its rounding. -/
theorem roundHalfEven_mul_left
    {factor : Nat}
    (positive : 0 < factor)
    (numerator denominator : Nat) :
    roundHalfEven (factor * numerator) (factor * denominator) =
      roundHalfEven numerator denominator := by
  have sameQuotient : factor * numerator / (factor * denominator) = numerator / denominator :=
    Nat.mul_div_mul_left numerator denominator positive
  have scaledRest :
      2 * (factor * numerator % (factor * denominator)) =
        factor * (2 * (numerator % denominator)) := by
    rw [Nat.mul_mod_mul_left]
    ring
  rw [roundHalfEven, roundHalfEven, sameQuotient, scaledRest]
  simp only [Nat.mul_lt_mul_left positive]

theorem roundHalfEven_tenTo_zero
    (numerator : Nat) :
    roundHalfEven numerator (tenTo 0) = numerator := by
  simp [roundHalfEven, tenTo, Nat.mod_one]

theorem mul_tenTo_succ
    (mantissa zeros : Nat) :
    mantissa * tenTo (zeros + 1) = 10 * (mantissa * tenTo zeros) := by
  rw [tenTo_eq, tenTo_eq, pow_succ]
  ring

/-- Zeros at the end of a fraction are dropped. -/
theorem dropFractionZeros_append_zeros
    (mantissa scale zeros : Nat) :
    dropFractionZeros (mantissa * tenTo zeros) (scale + zeros) =
      dropFractionZeros mantissa scale := by
  induction zeros with
  | zero => rw [tenTo_eq, pow_zero, Nat.mul_one, Nat.add_zero]
  | succ zeros inductionHypothesis =>
      rw [mul_tenTo_succ, ← Nat.add_assoc, dropFractionZeros, if_pos (Nat.mul_mod_right 10 _),
        Nat.mul_div_cancel_left _ (by decide), inductionHypothesis]

theorem dropFractionZeros_zero
    (scale : Nat) :
    dropFractionZeros 0 scale = (0, 0) := by
  induction scale with
  | zero => rfl
  | succ scale inductionHypothesis => rw [dropFractionZeros, if_pos rfl, inductionHypothesis]

namespace Decimal

variable {left right longer shorter rate : Decimal} {zeros : Nat}

/-- The same value with some zeros more at the end of its fraction. -/
structure Extends (longer shorter : Decimal) (zeros : Nat) : Prop where
  mantissa : longer.mantissa = shorter.mantissa * tenTo zeros
  scale : longer.scale = shorter.scale + zeros
  sameSign : shorter.mantissa ≠ 0 → longer.negative = shorter.negative

theorem sameValue_comm
    (same : left.sameValue right = true) :
    right.sameValue left = true := by
  rw [sameValue, beq_iff_eq] at same ⊢
  exact same.symm

/-- Of two decimals of one value, the one with more places has zeros there. -/
theorem exists_extends
    (same : left.sameValue right = true)
    (fewer : left.scale ≤ right.scale) :
    ∃ zeros, right.Extends left zeros := by
  have sameUnits : left.units = right.units := beq_iff_eq.mp same
  obtain ⟨zeros, scaleEq⟩ := Nat.exists_eq_add_of_le fewer
  have sameMagnitude : left.toMagnitude.units = right.toMagnitude.units := by
    have sizes := congrArg Int.natAbs sameUnits
    simp only [units] at sizes
    split at sizes <;> split at sizes <;> omega
  have places : 28 - left.scale = zeros + (28 - right.scale) := by
    have inRange := right.scale_le
    omega
  have mantissaEq : right.mantissa = left.mantissa * tenTo zeros := by
    simp only [Magnitude.units, places, tenTo_add, ← Nat.mul_assoc] at sameMagnitude
    exact (Nat.eq_of_mul_eq_mul_right (tenTo_pos _) sameMagnitude).symm
  refine ⟨zeros, mantissaEq, scaleEq, fun someMantissa => ?_⟩
  have positive : 0 < left.toMagnitude.units :=
    Nat.mul_pos (Nat.pos_of_ne_zero someMantissa) (tenTo_pos _)
  -- With different signs the units would be of different signs, too.
  cases leftSign : left.negative <;> cases rightSign : right.negative <;>
    simp only [units, leftSign, rightSign, Bool.false_eq_true, ↓reduceIte] at sameUnits ⊢ <;>
    omega

theorem normalize_of_zero
    {amount : Decimal}
    (noMantissa : amount.mantissa = 0) :
    amount.normalize = zero := by
  have dropped : dropFractionZeros amount.mantissa amount.scale = (0, 0) := by
    rw [noMantissa, dropFractionZeros_zero]
  have parts : amount.toMagnitude.normalize = Magnitude.zero :=
    Magnitude.eq_of_parts (congrArg Prod.fst dropped) (congrArg Prod.snd dropped)
  rw [normalize, parts, zero, signed, signed]
  simp [Magnitude.zero]

theorem Extends.normalize_eq
    (extended : longer.Extends shorter zeros) :
    longer.normalize = shorter.normalize := by
  by_cases noMantissa : shorter.mantissa = 0
  · have noneLonger : longer.mantissa = 0 := by
      rw [extended.mantissa, noMantissa, Nat.zero_mul]
    rw [normalize_of_zero noMantissa, normalize_of_zero noneLonger]
  · have sameParts : dropFractionZeros longer.mantissa longer.scale =
        dropFractionZeros shorter.mantissa shorter.scale := by
      rw [extended.mantissa, extended.scale, dropFractionZeros_append_zeros]
    have sameMagnitude : longer.toMagnitude.normalize = shorter.toMagnitude.normalize :=
      Magnitude.eq_of_parts (congrArg Prod.fst sameParts) (congrArg Prod.snd sameParts)
    rw [normalize, normalize, sameMagnitude, extended.sameSign noMantissa]

/-- What zeros at the end of a fraction make no difference to is one for decimals of one value. -/
theorem eq_of_sameValue
    {Result : Type}
    {result : Decimal → Result}
    (extends_eq :
      ∀ {longer shorter zeros}, Extends longer shorter zeros → result longer = result shorter)
    (same : left.sameValue right = true) :
    result left = result right := by
  rcases Nat.le_total left.scale right.scale with fewer | more
  · obtain ⟨zeros, extended⟩ := exists_extends same fewer
    exact (extends_eq extended).symm
  · obtain ⟨zeros, extended⟩ := exists_extends (sameValue_comm same) more
    exact extends_eq extended

/-- Decimals of one value are normalized to one decimal. -/
theorem normalize_of_sameValue
    (same : left.sameValue right = true) :
    left.normalize = right.normalize :=
  eq_of_sameValue Extends.normalize_eq same

/-! ## Products -/

/-- The decimal of the digits of a product, as many of them dropped as it takes to fit. -/
def fitted? (negative : Bool) (mantissa scale : Nat) : Option Decimal :=
  (excessDigits? mantissa scale).bind fun dropped =>
    ofParts? negative (roundHalfEven mantissa (tenTo dropped)) (scale - dropped)

theorem mul?_eq_fitted?
    (notZero : left.mantissa * rate.mantissa ≠ 0) :
    left.mul? rate =
      fitted? (left.negative != rate.negative) (left.mantissa * rate.mantissa)
        (left.scale + rate.scale) :=
  if_neg notZero

/-- A digit more to drop is dropped as the digits in front of it are. -/
theorem roundHalfEven_append_zero
    (mantissa dropped : Nat) :
    roundHalfEven (10 * mantissa) (tenTo (dropped + 1)) =
      roundHalfEven mantissa (tenTo dropped) := by
  have power : tenTo (dropped + 1) = 10 * tenTo dropped := by
    rw [tenTo_eq, tenTo_eq, pow_succ, Nat.mul_comm]
  rw [power, roundHalfEven_mul_left (by decide)]

/-- With a zero more at the end, one digit more is dropped, or none need be. -/
theorem excessDigits?_append_zero
    (mantissa scale : Nat) :
    excessDigits? (10 * mantissa) (scale + 1) = (excessDigits? mantissa scale).map (· + 1) ∨
      (10 * mantissa < twoTo 96 ∧ scale + 1 ≤ 28) ∧
        excessDigits? (10 * mantissa) (scale + 1) = some 0 ∧
        excessDigits? mantissa scale = some 0 := by
  have shifted (first count : Nat) :
      ((List.range' (first + 1) count).find? fun dropped =>
          decide (roundHalfEven (10 * mantissa) (tenTo dropped) < twoTo 96)) =
        ((List.range' first count).find? fun dropped =>
          decide (roundHalfEven mantissa (tenTo dropped) < twoTo 96)).map (· + 1) := by
    have moved : List.range' (first + 1) count = (List.range' first count).map (· + 1) := by
      rw [Nat.add_comm, ← List.map_add_range']
      exact List.map_congr_left fun place _ => Nat.add_comm 1 place
    rw [moved, List.find?_map]
    simp only [Function.comp_def, roundHalfEven_append_zero]
  rw [excessDigits?, excessDigits?]
  by_cases tooLong : 28 ≤ scale
  · have first : scale + 1 - 28 = scale - 28 + 1 := by omega
    have count : scale + 1 + 1 - (scale - 28 + 1) = scale + 1 - (scale - 28) := by omega
    rw [first, count]
    exact Or.inl (shifted _ _)
  · have first : scale + 1 - 28 = 0 ∧ scale - 28 = 0 := by omega
    rw [first.1, first.2, Nat.sub_zero, Nat.sub_zero, List.range'_succ]
    by_cases fits : 10 * mantissa < twoTo 96
    · have fitsShort : mantissa < twoTo 96 := by omega
      refine Or.inr ⟨⟨fits, by omega⟩, ?_, ?_⟩
      · rw [List.find?_cons_of_pos (by rwa [roundHalfEven_tenTo_zero, decide_eq_true_eq])]
      · rw [List.range'_succ,
          List.find?_cons_of_pos (by rwa [roundHalfEven_tenTo_zero, decide_eq_true_eq])]
    · rw [List.find?_cons_of_neg (by rwa [roundHalfEven_tenTo_zero, decide_eq_true_eq])]
      exact Or.inl (shifted 0 (scale + 1))

/-- A zero more at the end of a product is gone when it is normalized. -/
theorem fitted?_append_zero
    (negative : Bool)
    (mantissa scale : Nat) :
    (fitted? negative (10 * mantissa) (scale + 1)).map normalize =
      (fitted? negative mantissa scale).map normalize := by
  rw [fitted?, fitted?]
  rcases excessDigits?_append_zero mantissa scale with
    moreDropped | ⟨⟨fits, fewPlaces⟩, noneLonger, none⟩
  · rw [moreDropped]
    cases excessDigits? mantissa scale with
    | none => rfl
    | some dropped =>
        rw [Option.map_some, Option.bind_some, Option.bind_some, roundHalfEven_append_zero,
          Nat.add_sub_add_right]
  · obtain ⟨longer, longerMade, longerMantissa, longerScale⟩ :=
      Magnitude.exists_ofParts? fits fewPlaces
    obtain ⟨shorter, shorterMade, shorterMantissa, shorterScale⟩ :=
      Magnitude.exists_ofParts? (by omega : mantissa < twoTo 96) (by omega : scale ≤ 28)
    have extended : (signed negative longer).Extends (signed negative shorter) 1 :=
      { mantissa := by
          change longer.mantissa = shorter.mantissa * 10
          rw [longerMantissa, shorterMantissa, Nat.mul_comm]
        scale := by
          change longer.scale = shorter.scale + 1
          rw [longerScale, shorterScale]
        sameSign := by
          intro someMantissa
          change shorter.mantissa ≠ 0 at someMantissa
          have someLonger : longer.mantissa ≠ 0 := by omega
          change (negative && longer.mantissa != 0) = (negative && shorter.mantissa != 0)
          rw [bne_iff_ne.mpr someMantissa, bne_iff_ne.mpr someLonger] }
    rw [noneLonger, none, Option.bind_some, Option.bind_some, roundHalfEven_tenTo_zero,
      roundHalfEven_tenTo_zero, Nat.sub_zero, Nat.sub_zero, ofParts?, ofParts?, longerMade,
      shorterMade, Option.map_some, Option.map_some, Option.map_some, Option.map_some,
      extended.normalize_eq]

theorem fitted?_append_zeros
    (negative : Bool)
    (mantissa scale zeros : Nat) :
    (fitted? negative (mantissa * tenTo zeros) (scale + zeros)).map normalize =
      (fitted? negative mantissa scale).map normalize := by
  induction zeros with
  | zero => rw [tenTo_eq, pow_zero, Nat.mul_one, Nat.add_zero]
  | succ zeros inductionHypothesis =>
      rw [mul_tenTo_succ, ← Nat.add_assoc, fitted?_append_zero, inductionHypothesis]

theorem Extends.mul?_eq
    (extended : longer.Extends shorter zeros)
    (rate : Decimal) :
    (longer.mul? rate).map normalize = (shorter.mul? rate).map normalize := by
  have productEq :
      longer.mantissa * rate.mantissa = shorter.mantissa * rate.mantissa * tenTo zeros := by
    rw [extended.mantissa]
    ring
  by_cases isZero : shorter.mantissa * rate.mantissa = 0
  · have zeroLonger : longer.mantissa * rate.mantissa = 0 := by
      rw [productEq, isZero, Nat.zero_mul]
    rw [mul?, mul?, if_pos isZero, if_pos zeroLonger]
  · have notZeroLonger : longer.mantissa * rate.mantissa ≠ 0 := by
      rw [productEq]
      exact Nat.mul_ne_zero isZero (tenTo_pos zeros).ne'
    have scaleEq : longer.scale + rate.scale = shorter.scale + rate.scale + zeros := by
      rw [extended.scale]
      ring
    rw [mul?_eq_fitted? isZero, mul?_eq_fitted? notZeroLonger, productEq, scaleEq,
      extended.sameSign (left_ne_zero_of_mul isZero), fitted?_append_zeros]

/-- Decimals of one value have products of one value, or products that do not fit. -/
theorem mul?_of_sameValue
    (same : left.sameValue right = true)
    (rate : Decimal) :
    (left.mul? rate).map normalize = (right.mul? rate).map normalize :=
  eq_of_sameValue (fun extended => extended.mul?_eq rate) same

end Decimal

end IntentPolicy
