import IntentPolicy.Proofs.Number.DoubleDecimal
import IntentPolicy.Proofs.Sentence.ThresholdValue

namespace IntentPolicy

/-!
# Which thresholds are refused, and how

The double of a literal decides whether it is a number that is not below zero, so a literal may
lie a little below zero, and one far out of range is no threshold at all.  Among the others those
are out of range that are no decimal in either way.
-/

namespace Double

/-- The least number whose double is beyond the mantissa of a decimal. -/
def leastBeyondDecimals : Rat := 2 ^ 96 - 2 ^ 42

theorem greatestZero_le_one : greatestZero ≤ 1 :=
  greatestZero_lt.le.trans (by norm_num)

theorem decimalBound_lt_leastInfinite : decimalBound < leastInfinite :=
  lt_trans (by norm_num [decimalBound]) lt_leastInfinite

theorem leastBeyondDecimals_lt_decimalBound : leastBeyondDecimals < decimalBound := by
  rw [leastBeyondDecimals, decimalBound]
  norm_num

theorem one_lt_leastBeyondDecimals : 1 < leastBeyondDecimals := by
  rw [leastBeyondDecimals]
  norm_num

/-- A literal has a double that is finite and not below zero exactly within these bounds. -/
theorem isAdmitted_ofLiteral_iff
    (literal : DecimalLiteral) :
    ((ofLiteral literal).isFinite && zero.le (ofLiteral literal)) = true ↔
      -greatestZero ≤ literal.value ∧ literal.value < leastInfinite := by
  have notNegative_iff (finite : (ofLiteral literal).isFinite = true) :
      zero.le (ofLiteral literal) = true ↔
        literal.negative = false ∨ literal.size ≤ greatestZero := by
    rw [zero_le_iff finite, isNegative_ofLiteral, isZero_ofLiteral_iff]
  have zeroPositive := greatestZero_pos
  have smallZero := greatestZero_le_one.trans_lt (one_lt_leastBeyondDecimals.trans
    (leastBeyondDecimals_lt_decimalBound.trans decimalBound_lt_leastInfinite))
  have sizeNonneg := literal.size_nonneg
  rw [Bool.and_eq_true, and_congr_right notNegative_iff, isFinite_ofLiteral_iff,
    DecimalLiteral.value_eq, signFactor]
  cases literal.negative with
  | false =>
      simp only [Bool.false_eq_true, ↓reduceIte, one_mul, true_or, and_true]
      constructor
      · intro finite
        exact ⟨by linarith, finite⟩
      · exact And.right
  | true =>
      simp only [↓reduceIte, Bool.true_eq_false, false_or]
      constructor
      · rintro ⟨-, small⟩
        exact ⟨by linarith, by linarith⟩
      · rintro ⟨small, -⟩
        exact ⟨by linarith, by linarith⟩

/-- A finite double of a literal makes a decimal exactly below the mantissa of one. -/
theorem isSome_ofDouble?_ofLiteral_iff
    {literal : DecimalLiteral}
    (finite : (ofLiteral literal).isFinite = true) :
    (Decimal.ofDouble? (ofLiteral literal)).isSome ↔ literal.size < leastBeyondDecimals := by
  have reaches : Decimal.firstTooGreat ≤ (ofLiteral literal).magnitudeBits ↔
      leastBeyondDecimals ≤ literal.size :=
    power_le_magnitudeBits_iff (by decide) (by decide : (96 : Int) ≤ 1024) literal
  rw [Decimal.isSome_ofDouble?_iff finite, ← not_le, reaches, not_le]

end Double

/-- A literal that is admitted lies below a bound above one if its size does. -/
theorem DecimalLiteral.value_lt_iff
    {literal : DecimalLiteral}
    (admitted : -Double.greatestZero ≤ literal.value)
    {bound : Rat}
    (aboveOne : 1 < bound) :
    literal.value < bound ↔ literal.size < bound := by
  have smallZero := Double.greatestZero_le_one
  have sizeNonneg := literal.size_nonneg
  rw [value_eq, signFactor] at admitted ⊢
  split at admitted
  · next below =>
      rw [if_pos below]
      exact iff_of_true (by linarith) (by linarith)
  · next unsigned => rw [if_neg unsigned, one_mul]

/-- A literal that is admitted has an amount if it does not round out of range, and is in reach
where its double is out of range. -/
theorem isSome_thresholdAmount?_iff
    {token : String}
    {parts : LiteralParts}
    (literalRead : LiteralParts.read? token.toList = some parts)
    (notBelow : -Double.greatestZero ≤ (DecimalLiteral.ofParts parts).value)
    (finite : (Double.ofLiteral (.ofParts parts)).isFinite = true) :
    (thresholdAmount? token (.ofLiteral (.ofParts parts))).isSome ↔
      (DecimalLiteral.ofParts parts).value < decimalBound ∧
        (Double.leastBeyondDecimals ≤ (DecimalLiteral.ofParts parts).value → parts.InReach) := by
  have beyondIsGreat := Double.one_lt_leastBeyondDecimals
  have beyondIsLess := Double.leastBeyondDecimals_lt_decimalBound
  rw [DecimalLiteral.value_lt_iff notBelow (beyondIsGreat.trans beyondIsLess), ← not_lt,
    DecimalLiteral.value_lt_iff notBelow beyondIsGreat, not_lt,
    thresholdAmount?_of_read? literalRead, Option.isSome_or, Bool.or_eq_true,
    Double.isSome_ofDouble?_ofLiteral_iff finite]
  rcases Decimal.ofText?_cases literalRead with ⟨amount, readAs, inReach, small, -⟩ |
      ⟨notRead, outOfRange⟩
  · rw [readAs]
    exact iff_of_true (Or.inl rfl) ⟨small, fun _ => inReach⟩
  · rw [notRead]
    simp only [Option.isSome_none, Bool.false_eq_true, false_or]
    constructor
    · intro below
      exact ⟨below.trans beyondIsLess, fun beyond => absurd below (not_lt.mpr beyond)⟩
    · rintro ⟨small, reached⟩
      by_contra beyond
      exact outOfRange ⟨reached (not_lt.mp beyond), small⟩

/-- A token that is no literal is no threshold. -/
theorem readThreshold_of_no_literal
    {token : String}
    (noLiteral : LiteralParts.read? token.toList = none) :
    readThreshold token = .error (.invalidThreshold token) := by
  rw [readThreshold]
  cases read : Double.ofText? token.toList with
  | none => rfl
  | some approximation =>
      have notFinite : approximation.isFinite = false := by
        apply Bool.eq_false_iff.mpr
        intro finite
        obtain ⟨parts, literalRead, -⟩ := Double.literal_of_isFinite read finite
        cases noLiteral.symm.trans literalRead
      simp [notFinite]

/-- A literal is a threshold if its double is admitted and it has an amount. -/
theorem readThreshold_of_literal
    {token : String}
    {parts : LiteralParts}
    (literalRead : LiteralParts.read? token.toList = some parts) :
    readThreshold token =
      if (Double.ofLiteral (.ofParts parts)).isFinite &&
          Double.zero.le (.ofLiteral (.ofParts parts)) then
        match thresholdAmount? token (.ofLiteral (.ofParts parts)) with
        | some amount => .ok amount.normalize
        | none => .error (.thresholdOutOfRange token)
      else .error (.invalidThreshold token) := by
  rewrite [readThreshold, Double.ofText?_of_read? literalRead]
  rfl

/-- The double of a literal is admitted or not, and one that is admitted has an amount or not. -/
theorem readThreshold_literal_cases
    {token : String}
    {parts : LiteralParts}
    (literalRead : LiteralParts.read? token.toList = some parts) :
    let value := (DecimalLiteral.ofParts parts).value
    let Admitted := -Double.greatestZero ≤ value ∧ value < Double.leastInfinite
    let Held := value < decimalBound ∧ (Double.leastBeyondDecimals ≤ value → parts.InReach)
    (readThreshold token = .error (.invalidThreshold token) ∧ ¬ Admitted) ∨
    (readThreshold token = .error (.thresholdOutOfRange token) ∧ Admitted ∧ ¬ Held) ∨
    (∃ amount, readThreshold token = .ok amount ∧ Admitted ∧ Held) := by
  intro value Admitted Held
  have admitted_iff := Double.isAdmitted_ofLiteral_iff (.ofParts parts)
  rw [readThreshold_of_literal literalRead]
  by_cases admitted : Admitted
  · have isAdmitted := admitted_iff.mpr admitted
    have held_iff :=
      isSome_thresholdAmount?_iff literalRead admitted.1 (Bool.and_eq_true_iff.mp isAdmitted).1
    rw [if_pos isAdmitted]
    cases amountRead : thresholdAmount? token (.ofLiteral (.ofParts parts)) with
    | some amount =>
        have held : Held := held_iff.mp (Option.isSome_iff_exists.mpr ⟨amount, amountRead⟩)
        exact Or.inr (Or.inr ⟨amount.normalize, rfl, admitted, held⟩)
    | none =>
        have notHeld : ¬ Held := fun held => by
          have someAmount := held_iff.mpr held
          rw [amountRead] at someAmount
          cases someAmount
        exact Or.inr (Or.inl ⟨rfl, admitted, notHeld⟩)
  · rw [if_neg (admitted_iff.not.mpr admitted)]
    exact Or.inl ⟨rfl, admitted⟩

/--
A token is refused as no threshold if it is no literal, if its literal lies below zero by more
than half of the smallest double, or if it has an infinite double.  A literal between is refused
as out of range if it rounds out of the range of decimals, or if it is out of reach and its double
is beyond that range.  All others are accepted.
-/
theorem threshold_verdict
    (token : String) :
    (readThreshold token = .error (.invalidThreshold token) ↔
      ∀ parts, LiteralParts.read? token.toList = some parts →
        (DecimalLiteral.ofParts parts).value < -Double.greatestZero ∨
          Double.leastInfinite ≤ (DecimalLiteral.ofParts parts).value) ∧
    (readThreshold token = .error (.thresholdOutOfRange token) ↔
      ∃ parts, LiteralParts.read? token.toList = some parts ∧
        (DecimalLiteral.ofParts parts).value < Double.leastInfinite ∧
        (decimalBound ≤ (DecimalLiteral.ofParts parts).value ∨
          (Double.leastBeyondDecimals ≤ (DecimalLiteral.ofParts parts).value ∧
            ¬ parts.InReach))) ∧
    ((∃ amount, readThreshold token = .ok amount) ↔
      ∃ parts, LiteralParts.read? token.toList = some parts ∧
        -Double.greatestZero ≤ (DecimalLiteral.ofParts parts).value ∧
        (DecimalLiteral.ofParts parts).value < decimalBound ∧
        (Double.leastBeyondDecimals ≤ (DecimalLiteral.ofParts parts).value →
          parts.InReach)) := by
  cases literalRead : LiteralParts.read? token.toList with
  | none => simp [readThreshold_of_no_literal literalRead]
  | some parts =>
      simp only [Option.some.injEq, forall_eq', exists_eq_left']
      have cases := readThreshold_literal_cases literalRead
      generalize (DecimalLiteral.ofParts parts).value = value at cases ⊢
      -- The bounds are in the order of the cases.
      have zeroPositive := Double.greatestZero_pos
      have beyondIsGreat := Double.one_lt_leastBeyondDecimals
      have beyondIsLess := Double.leastBeyondDecimals_lt_decimalBound
      have finiteIsGreat := Double.decimalBound_lt_leastInfinite
      rcases cases with ⟨verdict, notAdmitted⟩ | ⟨verdict, ⟨notBelow, finite⟩, notHeld⟩ |
          ⟨amount, verdict, ⟨notBelow, finite⟩, small, reached⟩
      · rw [verdict]
        have invalid : value < -Double.greatestZero ∨ Double.leastInfinite ≤ value := by
          simpa only [not_and_or, not_le, not_lt] using notAdmitted
        refine ⟨iff_of_true rfl invalid, iff_of_false (by simp) ?_, iff_of_false (by simp) ?_⟩
        · rintro ⟨finite, great | ⟨great, -⟩⟩
          · exact notAdmitted ⟨by linarith, finite⟩
          · exact notAdmitted ⟨by linarith, finite⟩
        · rintro ⟨notBelow, small, -⟩
          exact notAdmitted ⟨notBelow, small.trans finiteIsGreat⟩
      · rw [verdict]
        have valid : ¬ (value < -Double.greatestZero ∨ Double.leastInfinite ≤ value) :=
          not_or.mpr ⟨not_lt.mpr notBelow, not_le.mpr finite⟩
        have outOfRange :
            decimalBound ≤ value ∨ (Double.leastBeyondDecimals ≤ value ∧ ¬ parts.InReach) := by
          simpa only [not_and_or, not_lt, Classical.not_imp] using notHeld
        exact ⟨iff_of_false (by simp) valid, iff_of_true rfl ⟨finite, outOfRange⟩,
          iff_of_false (by simp) fun ⟨_, held⟩ => notHeld held⟩
      · rw [verdict]
        have valid : ¬ (value < -Double.greatestZero ∨ Double.leastInfinite ≤ value) :=
          not_or.mpr ⟨not_lt.mpr notBelow, not_le.mpr finite⟩
        refine ⟨iff_of_false (by simp) valid, iff_of_false (by simp) ?_,
          iff_of_true ⟨amount, rfl⟩ ⟨notBelow, small, reached⟩⟩
        rintro ⟨-, great | ⟨beyond, outOfReach⟩⟩
        · exact absurd small (not_lt.mpr great)
        · exact outOfReach (reached beyond)

/-- A literal out of range of doubles is no threshold, one little below zero is one, and the
greatest decimal is out of range behind a base that is greater. -/
theorem threshold_verdict_misses_value :
    let great := "1e400"
    let little := "-1e-400"
    let shifted := "792281625142643375935439503350e-1"
    (readThreshold great = .error (.invalidThreshold great) ∧
      DecimalLiteral.read? great.toList = some ⟨false, 1, 400⟩) ∧
    (readThreshold little = .ok .zero ∧
      DecimalLiteral.read? little.toList = some ⟨true, 1, -400⟩) ∧
    (readThreshold shifted = .error (.thresholdOutOfRange shifted) ∧
      (DecimalLiteral.read? shifted.toList).map DecimalLiteral.value = some (2 ^ 96 - 1)) := by
  decide +kernel

end IntentPolicy
