import IntentPolicy.Proofs.Number.LiteralDouble
import IntentPolicy.Proofs.Sentence.Threshold
import Mathlib.Data.List.TakeWhile

namespace IntentPolicy

/-!
# Thresholds are read back

A threshold that has been read is not below zero and has no zeros at the end of its
fraction, so its text is read as the same threshold again.
-/

/-- A double that is not below zero makes no decimal below zero. -/
theorem Decimal.not_negative_of_ofDouble?
    {number : Double}
    {amount : Decimal}
    (notBelow : number.isNegative = false ∨ number.magnitudeBits = 0)
    (made : Decimal.ofDouble? number = some amount) :
    amount.negative = false := by
  unfold ofDouble? at made
  split at made
  · cases made
  · split at made
    · rw [← Option.some.inj made]
      rfl
    · next notZero =>
        have unsigned : number.isNegative = false :=
          notBelow.resolve_right fun zeroBits => notZero (decide_eq_true zeroBits)
        apply Bool.eq_false_iff.mpr
        intro below
        rw [unsigned] at made
        split at made
        · cases (parts_of_ofParts? made).2 below
        · cases (parts_of_ofParts? made).2 below

/-- The amount of a literal is what it is read as, or else what its double makes. -/
theorem thresholdAmount?_of_read?
    {token : String}
    {parts : LiteralParts}
    (literalRead : LiteralParts.read? token.toList = some parts)
    (approximation : Double) :
    thresholdAmount? token approximation =
      (Decimal.ofText? token).or (Decimal.ofDouble? approximation) := by
  obtain ⟨unsigned, point, exponent, split, shape⟩ := LiteralParts.shape_of_read? literalRead
  rw [thresholdAmount?]
  cases read : Decimal.ofText? token with
  | some amount => rfl
  | none => rw [Decimal.readScientific?_of_ofText? split shape read, Option.none_or]

/-- An amount other than zero is backed by the literal that it was read from, unless it comes
from the literal's double. -/
theorem backs_of_thresholdAmount?
    {token : String}
    {parts : LiteralParts}
    {approximation : Double}
    {amount : Decimal}
    (literalRead : LiteralParts.read? token.toList = some parts)
    (amountRead : thresholdAmount? token approximation = some amount)
    (notZero : amount.mantissa ≠ 0) :
    parts.Backs amount ∨ Decimal.ofDouble? approximation = some amount := by
  obtain ⟨unsigned, point, exponent, split, shape⟩ := LiteralParts.shape_of_read? literalRead
  rw [thresholdAmount?_of_read? literalRead] at amountRead
  rcases Option.or_eq_some_iff.mp amountRead with read | ⟨-, fromDouble⟩
  · exact Or.inl (Decimal.backs_of_ofText? split shape read notZero)
  · exact Or.inr fromDouble

theorem not_negative_of_readThreshold
    {token : String}
    {amount : Decimal}
    (accepted : readThreshold token = .ok amount) :
    amount.negative = false := by
  obtain ⟨parts, exact, literalRead, finite, notBelow, amountRead, rfl⟩ :=
    readThreshold_eq_ok_iff.mp accepted
  have follows := exact.normalize_follows
  have unsignedOrZero := (Double.zero_le_iff finite).mp notBelow
  apply Bool.eq_false_iff.mpr
  intro below
  have notZero : exact.mantissa ≠ 0 := by
    intro noMantissa
    have signShown := (Bool.and_eq_true_iff.mp below).2
    exact bne_iff_ne.mp signShown (follows.staysZero noMantissa)
  rcases backs_of_thresholdAmount? literalRead amountRead notZero with backs | fromDouble
  · have literalBelow := backs.sameSign (follows.sameSign below)
    rw [Double.isNegative_ofLiteral] at unsignedOrZero
    rcases unsignedOrZero with unsigned | zeroBits
    · rw [DecimalLiteral.ofParts, literalBelow] at unsigned
      cases unsigned
    · have positive := Double.magnitudeBits_ofLiteral_pos_of_backs backs
      omega
  · have unsigned := Decimal.not_negative_of_ofDouble? unsignedOrZero fromDouble
    rw [follows.sameSign below] at unsigned
    cases unsigned

theorem dropFractionZeros_idempotent
    (mantissa scale : Nat) :
    dropFractionZeros (dropFractionZeros mantissa scale).1 (dropFractionZeros mantissa scale).2 =
      dropFractionZeros mantissa scale := by
  induction scale generalizing mantissa with
  | zero => rfl
  | succ scale inductionHypothesis =>
      rw [dropFractionZeros]
      split
      · exact inductionHypothesis (mantissa / 10)
      · next notZero => rw [dropFractionZeros, if_neg notZero]

namespace Decimal

theorem normalize_normalize
    (amount : Decimal) :
    amount.normalize.normalize = amount.normalize := by
  have sameParts := dropFractionZeros_idempotent amount.mantissa amount.scale
  have sameMagnitude :
      amount.toMagnitude.normalize.normalize = amount.toMagnitude.normalize :=
    Magnitude.eq_of_parts (congrArg Prod.fst sameParts) (congrArg Prod.snd sameParts)
  simp only [normalize, signed, sameMagnitude, Bool.and_assoc, Bool.and_self]

/-- A threshold has no zeros at the end of its fraction. -/
theorem normalize_of_readThreshold
    {token : String}
    {amount : Decimal}
    (accepted : readThreshold token = .ok amount) :
    amount.normalize = amount := by
  obtain ⟨_, exact, _, _, _, _, rfl⟩ := readThreshold_eq_ok_iff.mp accepted
  exact exact.normalize_normalize

/-- The text of a decimal without a sign is a literal with the digits of the decimal. -/
theorem exists_read?_text
    {amount : Decimal}
    (unsigned : amount.negative = false) :
    ∃ parts, LiteralParts.read? amount.text.toList = some parts ∧
      DecimalLiteral.ofParts parts = ⟨false, amount.mantissa, -(amount.scale : Int)⟩ := by
  obtain ⟨whole, fraction, spelling⟩ := exists_spelling unsigned
  have characters : amount.text.toList = amount.characters := String.toList_ofList
  obtain ⟨first, others, opening⟩ := List.exists_cons_of_ne_nil spelling.whole_ne_nil
  have openingDigit := spelling.wholeDigits first (by simp [opening])
  have split : splitSign amount.characters = (false, amount.characters) := by
    rw [spelling.characters_eq, opening, List.cons_append]
    exact splitSign_unsigned (ne_of_isDigit openingDigit '-' rfl)
      (ne_of_isDigit openingDigit '+' rfl)
  refine ⟨⟨false, whole, fraction, 0⟩, ?_, ?_⟩
  · rw [characters, LiteralParts.read?, split, spelling.characters_eq]
    simp only [List.takeWhile_append_of_pos spelling.wholeDigits,
      List.dropWhile_append_of_pos spelling.wholeDigits]
    by_cases noPlaces : amount.scale = 0
    · have noFraction : fraction = [] := by
        rw [← List.length_eq_zero_iff, spelling.fraction_length, noPlaces]
      simp [noPlaces, noFraction, DecimalLiteral.splitFraction, exponentPart?,
        spelling.whole_ne_nil]
    · have allTaken : fraction.takeWhile Char.isDigit = fraction :=
        List.takeWhile_eq_self_iff.mpr spelling.fractionDigits
      have noneLeft : fraction.dropWhile Char.isDigit = [] :=
        List.dropWhile_eq_nil_iff.mpr spelling.fractionDigits
      have pointNoDigit : ('.' : Char).isDigit = false := rfl
      simp [noPlaces, DecimalLiteral.splitFraction, exponentPart?, allTaken, noneLeft,
        pointNoDigit, spelling.whole_ne_nil]
  · simp only [DecimalLiteral.ofParts, spelling.value_eq, spelling.fraction_length, Int.zero_sub]

/-- The text of a threshold is read as the threshold. -/
theorem readThreshold_text
    {amount : Decimal}
    (unsigned : amount.negative = false)
    (normal : amount.normalize = amount) :
    readThreshold amount.text = .ok amount := by
  obtain ⟨parts, literalRead, literalEq⟩ := exists_read?_text unsigned
  apply readThreshold_eq_ok_iff.mpr
  have finite : (Double.ofLiteral (.ofParts parts)).isFinite = true := by
    rw [literalEq]
    apply Double.isFinite_ofLiteral amount.mantissa_lt
    simp only
    omega
  refine ⟨parts, amount, literalRead, finite, ?_, ?_, normal.symm⟩
  · rw [Double.zero_le_iff finite, Double.isNegative_ofLiteral, literalEq]
    exact Or.inl rfl
  · rw [thresholdAmount?, ofText?_text unsigned]

end Decimal

end IntentPolicy
