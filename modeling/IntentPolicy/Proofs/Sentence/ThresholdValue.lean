import IntentPolicy.Proofs.Number.LiteralReading
import IntentPolicy.Proofs.Sentence.ThresholdText

namespace IntentPolicy

/-!
# Which thresholds keep their value

A literal whose number is a decimal is kept exactly if its base is one too and its exponent is
in range; a literal out of reach is kept only as far as its double keeps it.
-/

/-- An amount without a sign has the value of its magnitude. -/
theorem Decimal.value_of_not_negative
    {amount : Decimal}
    (unsigned : amount.negative = false) :
    amount.value = amount.toMagnitude.value := by
  simp [Decimal.value_eq, signFactor, unsigned]

/-- A magnitude other than zero has no more places than a decimal. -/
theorem Magnitude.one_le_value_mul
    {magnitude : Magnitude}
    (notZero : magnitude.value ≠ 0) :
    1 ≤ magnitude.value * 10 ^ 28 := by
  have notNothing : magnitude.mantissa ≠ 0 := by
    intro zero
    exact notZero (by simp [Magnitude.value, zero])
  rw [magnitude.value_mul_tenTo magnitude.scale_le]
  have positive := Nat.mul_pos (Nat.pos_of_ne_zero notNothing) (tenTo_pos (28 - magnitude.scale))
  exact_mod_cast positive

/-- A literal whose number is a decimal is not below zero if its double is not. -/
theorem DecimalLiteral.value_eq_size
    {literal : DecimalLiteral}
    (notBelow : (Double.ofLiteral literal).isNegative = false ∨
      (Double.ofLiteral literal).magnitudeBits = 0)
    (fits : IsDecimalValue literal.value) :
    literal.value = literal.size := by
  rw [Double.isNegative_ofLiteral] at notBelow
  rcases notBelow with unsigned | zeroBits
  · simp [value_eq, signFactor, unsigned]
  · -- Whatever has a double of zero lies far below the last place of a decimal.
    have tiny := (Double.isZero_ofLiteral_iff literal).mp zeroBits
    obtain ⟨amount, sameValue⟩ := fits
    have sameSize : amount.toMagnitude.value = literal.size := by
      have sizes := congrArg abs sameValue
      have factor (negative : Bool) : |signFactor negative| = 1 := by
        cases negative <;> simp [signFactor]
      rwa [Decimal.value_eq, value_eq, abs_mul, abs_mul, factor, factor, one_mul, one_mul,
        abs_of_nonneg amount.toMagnitude.value_nonneg, abs_of_nonneg literal.size_nonneg] at sizes
    have nothing : literal.size = 0 := by
      by_contra something
      have visible := Magnitude.one_le_value_mul (sameSize ▸ something)
      rw [sameSize] at visible
      have tinier := tiny.trans_lt Double.greatestZero_lt
      have invisible : (10 : Rat) ^ (-57 : Int) * 10 ^ 28 < 1 := by norm_num
      linarith
    rw [value_eq, nothing, mul_zero]

/--
A threshold whose literal denotes the number of a decimal is that number exactly if the base of
the literal is a decimal and its exponent in range, or if the literal is out of reach and the
decimal near its double has the number.
-/
theorem threshold_keeps_value_iff
    {token : String}
    {amount : Decimal}
    (accepted : readThreshold token = .ok amount) :
    ∃ parts, LiteralParts.read? token.toList = some parts ∧
      let literal := DecimalLiteral.ofParts parts
      IsDecimalValue literal.value →
        (amount.value = literal.value ↔
          (IsDecimalValue parts.base ∧ -28 ≤ parts.exponent ∧ parts.exponent ≤ 28) ∨
          (¬ parts.InReach ∧
            ∃ near, Decimal.ofDouble? (.ofLiteral literal) = some near ∧
              near.value = literal.value)) := by
  have unsigned := not_negative_of_readThreshold accepted
  obtain ⟨parts, exact, literalRead, finite, notBelow, amountRead, rfl⟩ :=
    readThreshold_eq_ok_iff.mp accepted
  refine ⟨parts, literalRead, fun fits => ?_⟩
  have notNegative := (Double.zero_le_iff finite).mp notBelow
  have valueEq := DecimalLiteral.value_eq_size notNegative fits
  rw [valueEq] at fits
  rw [valueEq, Decimal.value_of_not_negative unsigned, exact.normalize_value]
  rw [thresholdAmount?_of_read? literalRead] at amountRead
  rcases Decimal.ofText?_cases literalRead with ⟨read, readEq, inReach, -, exactly⟩ |
      ⟨notRead, outOfRange⟩
  · rw [readEq, Option.some_or] at amountRead
    obtain rfl := Option.some.inj amountRead
    rw [exactly fits]
    constructor
    · intro baseFits
      exact Or.inl ⟨baseFits, inReach.exponent⟩
    · rintro (⟨baseFits, -⟩ | ⟨outOfReach, -⟩)
      · exact baseFits
      · exact absurd inReach outOfReach
  · rw [notRead, Option.none_or] at amountRead
    have outOfReach : ¬ parts.InReach := fun inReach =>
      outOfRange ⟨inReach, fits.lt_decimalBound (DecimalLiteral.size_nonneg _)⟩
    have nearValue : exact.value = exact.toMagnitude.value :=
      Decimal.value_of_not_negative (Decimal.not_negative_of_ofDouble? notNegative amountRead)
    rw [← nearValue]
    constructor
    · intro same
      exact Or.inr ⟨outOfReach, exact, amountRead, same⟩
    · rintro (⟨baseFits, inRange⟩ | ⟨-, near, nearRead, same⟩)
      · exact absurd ⟨baseFits.lt_decimalBound parts.base_nonneg, inRange⟩ outOfReach
      · obtain rfl := Option.some.inj (amountRead.symm.trans nearRead)
        exact same

/-- A literal whose base is out of range is kept where its double has its number. -/
theorem threshold_keeps_value_out_of_reach :
    let token := "100000000000000000000000000000000e-32"
    let parts : LiteralParts := ⟨false, '1' :: List.replicate 32 '0', [], -32⟩
    readThreshold token = .ok .one ∧ LiteralParts.read? token.toList = some parts ∧
      Decimal.one.value = (DecimalLiteral.ofParts parts).value ∧ ¬ parts.InReach := by
  intro token parts
  have accepted : readThreshold token = .ok .one := by decide +kernel
  have partsRead : LiteralParts.read? token.toList = some parts := by decide +kernel
  have outOfReach : ¬ parts.InReach := fun inReach => absurd inReach.base (by decide +kernel)
  obtain ⟨others, othersRead, keeps_iff⟩ := threshold_keeps_value_iff accepted
  obtain rfl := Option.some.inj (partsRead.symm.trans othersRead)
  have fits : IsDecimalValue (DecimalLiteral.ofParts parts).value := ⟨.one, by decide +kernel⟩
  refine ⟨accepted, partsRead, (keeps_iff fits).mpr (Or.inr ⟨outOfReach, ?_⟩), outOfReach⟩
  exact ⟨.one, by decide +kernel, by decide +kernel⟩

/-- A number that decimals have is lost where its base has one place too many, and where its
exponent is one too great. -/
theorem threshold_loses_value :
    let places := "0.00000000000000000000000000001e1"
    let power := "0.1e29"
    let nearTenTo28 : Decimal := ⟨⟨9999999999999999583119736832, 0, by decide, by decide⟩, false⟩
    (readThreshold places = .ok .zero ∧
      (DecimalLiteral.read? places.toList).map DecimalLiteral.value = some (1 / 10 ^ 28) ∧
      IsDecimalValue (1 / 10 ^ 28) ∧ Decimal.zero.value ≠ 1 / 10 ^ 28) ∧
    (readThreshold power = .ok nearTenTo28 ∧
      (DecimalLiteral.read? power.toList).map DecimalLiteral.value = some (10 ^ 28) ∧
      IsDecimalValue (10 ^ 28) ∧ nearTenTo28.value ≠ 10 ^ 28) := by
  intro places power nearTenTo28
  refine ⟨⟨by decide +kernel, by decide +kernel, ?_, by decide +kernel⟩,
    by decide +kernel, by decide +kernel, ?_, by decide +kernel⟩
  · exact ⟨⟨⟨1, 28, by decide, by decide⟩, false⟩, by decide +kernel⟩
  · exact ⟨⟨⟨10 ^ 28, 0, by decide, by decide⟩, false⟩, by decide +kernel⟩

end IntentPolicy
