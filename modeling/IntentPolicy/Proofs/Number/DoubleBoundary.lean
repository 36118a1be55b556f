import IntentPolicy.Proofs.Number.DoubleRange
import IntentPolicy.Proofs.Number.ExactValue
import IntentPolicy.Proofs.Number.PositionalText

namespace IntentPolicy

/-!
# Where doubles change

A quotient is rounded to a power of two or beyond exactly from half a unit below it on, and to
a double other than zero exactly above half of the smallest one.
-/

/-- A positive even integer is reached from half below it on. -/
theorem le_roundHalfEven_iff
    {numerator denominator integer : Nat}
    (positive : 0 < denominator)
    (even : integer % 2 = 0) :
    integer ≤ roundHalfEven numerator denominator ↔
      2 * integer * denominator ≤ 2 * numerator + denominator := by
  have split := Nat.div_add_mod numerator denominator
  have small := Nat.mod_lt numerator positive
  simp only [roundHalfEven]
  generalize numerator / denominator = quotient at split
  generalize numerator % denominator = rest at split small
  obtain rfl := split.symm
  rcases Nat.lt_trichotomy integer (quotient + 1) with below | rfl | above
  · have noMore := Nat.mul_le_mul_right denominator (Nat.le_of_lt_succ below)
    refine iff_of_true ?_ (by nlinarith)
    split
    · omega
    · split <;> omega
  · -- Only here the rest decides, and a half goes up to the even integer.
    have half_iff : 2 * (quotient + 1) * denominator ≤
        2 * (denominator * quotient + rest) + denominator ↔ denominator ≤ 2 * rest := by
      constructor
      · intro ordered
        nlinarith
      · intro ordered
        nlinarith
    rw [half_iff]
    split
    · omega
    · split <;> omega
  · have noLess := Nat.mul_le_mul_right denominator (Nat.succ_le_of_lt above)
    refine iff_of_false ?_ (by nlinarith)
    split
    · omega
    · split <;> omega

/-- One is reached above a half. -/
theorem one_le_roundHalfEven_iff
    {numerator denominator : Nat}
    (positive : 0 < denominator) :
    1 ≤ roundHalfEven numerator denominator ↔ denominator < 2 * numerator := by
  have split := Nat.div_add_mod numerator denominator
  have small := Nat.mod_lt numerator positive
  simp only [roundHalfEven]
  generalize numerator / denominator = quotient at split
  generalize numerator % denominator = rest at split small
  obtain rfl := split.symm
  rcases Nat.eq_zero_or_pos quotient with rfl | somePart
  · split
    · omega
    · split <;> omega
  · have noLess := Nat.mul_le_mul_left denominator somePart
    refine iff_of_true ?_ (by omega)
    split
    · omega
    · split <;> omega

namespace Double

variable {numerator denominator : Nat}

/-- Rounding at a unit reaches an even multiple of it from half a unit below on. -/
theorem le_roundHalfEven_scaleDown_iff
    (numerator : Nat)
    (denominatorPositive : 0 < denominator)
    (unit : Int)
    {integer : Nat}
    (even : integer % 2 = 0) :
    integer ≤
        roundHalfEven (scaleDown numerator denominator unit).1
          (scaleDown numerator denominator unit).2 ↔
      ((integer : Rat) - 1 / 2) * 2 ^ unit ≤ numerator / denominator := by
  have positive := scaleDown_denominator_pos numerator denominatorPositive unit
  have positiveRat : (0 : Rat) < (scaleDown numerator denominator unit).2 := by
    exact_mod_cast positive
  have unitPositive : (0 : Rat) < 2 ^ unit := by positivity
  rw [le_roundHalfEven_iff positive even, ← le_div_iff₀ unitPositive, ← scaleDown_value,
    le_div_iff₀ positiveRat]
  generalize (scaleDown numerator denominator unit).1 = scaledNumerator
  generalize (scaleDown numerator denominator unit).2 = scaledDenominator
  constructor
  · intro ordered
    have orderedRat : 2 * (integer : Rat) * scaledDenominator ≤
        2 * scaledNumerator + scaledDenominator := by
      exact_mod_cast ordered
    linarith
  · intro ordered
    have orderedRat : 2 * (integer : Rat) * scaledDenominator ≤
        2 * scaledNumerator + scaledDenominator := by
      linarith
    exact_mod_cast orderedRat

theorem zpow_pred_le_zpow_sub
    (power : Int) :
    (2 : Rat) ^ (power - 1) ≤ 2 ^ power - 2 ^ (power - 54) := by
  have double : (2 : Rat) ^ power = 2 ^ (power - 1) * 2 := by
    rw [← zpow_add_one₀ (by norm_num), sub_add_cancel]
  have less : (2 : Rat) ^ (power - 54) ≤ 2 ^ (power - 1) :=
    zpow_le_zpow_right₀ (by norm_num) (by omega)
  linarith

/-- Half a unit below a power of two, the unit being that of the doubles below the power. -/
theorem half_unit_below
    (power : Int) :
    (((2 ^ 53 : Nat) : Rat) - 1 / 2) * 2 ^ (power - 53) = 2 ^ power - 2 ^ (power - 54) := by
  have upper : (2 : Rat) ^ power = 2 ^ (power - 53) * 2 ^ (53 : Int) := by
    rw [← zpow_add₀ (by norm_num), sub_add_cancel]
  have lower : (2 : Rat) ^ (power - 53) = 2 ^ (power - 54) * 2 := by
    rw [← zpow_add_one₀ (by norm_num)]
    congr 1
    ring
  rw [upper, lower]
  push_cast
  ring

/-- No more than the digits of a significand are kept above the unit. -/
theorem significand_le
    {unit : Int}
    (numeratorPositive : 0 < numerator)
    (denominatorPositive : 0 < denominator)
    (fine : lastPlace 53 numerator denominator ≤ unit) :
    roundHalfEven (scaleDown numerator denominator unit).1
      (scaleDown numerator denominator unit).2 ≤ 2 ^ 53 := by
  refine (roundHalfEven_le _ _).trans (Nat.succ_le_of_lt ?_)
  rw [scaleDown_div_lt_iff denominatorPositive]
  refine (value_lt_of_lastPlace 53 numeratorPositive denominatorPositive).trans_le ?_
  exact zpow_le_zpow_right₀ (by norm_num) (by omega)

/-- All digits of a significand are kept above the last place. -/
theorem le_significand
    (numeratorPositive : 0 < numerator)
    (denominatorPositive : 0 < denominator) :
    2 ^ 52 ≤
      roundHalfEven (scaleDown numerator denominator (lastPlace 53 numerator denominator)).1
        (scaleDown numerator denominator (lastPlace 53 numerator denominator)).2 := by
  refine le_trans (Nat.le_of_not_lt fun less => ?_) (le_roundHalfEven _ _)
  rw [scaleDown_div_lt_iff denominatorPositive] at less
  have low := (le_value_of_lastPlace 53 numeratorPositive denominatorPositive).trans_lt less
  have shorter := (zpow_lt_zpow_iff_right₀ (by norm_num)).mp low
  push_cast at shorter
  omega

/-- A quotient is rounded to a power of two or beyond from half a unit below it on, the unit
being that of the doubles below. -/
theorem power_le_roundedBits_iff
    {power : Int}
    (normal : -1021 ≤ power)
    (numeratorPositive : 0 < numerator)
    (denominatorPositive : 0 < denominator) :
    (power + 1023).toNat * twoTo 52 ≤ roundedBits numerator denominator ↔
      (2 : Rat) ^ power - 2 ^ (power - 54) ≤ numerator / denominator := by
  have high := value_lt_of_lastPlace 53 numeratorPositive denominatorPositive
  have low := le_value_of_lastPlace 53 numeratorPositive denominatorPositive
  simp only [roundedBits]
  have unitEq : unitExponent numerator denominator =
      max (lastPlace 53 numerator denominator) (-1074) := rfl
  generalize unitExponent numerator denominator = unit at unitEq
  rcases lt_trichotomy unit (power - 53) with below | rfl | above
  · -- Far below the power even the greatest significand stays below it.
    have digits := significand_le numeratorPositive denominatorPositive
      (by omega : lastPlace 53 numerator denominator ≤ unit)
    have small : (numerator : Rat) / denominator < 2 ^ power - 2 ^ (power - 54) := by
      refine (high.trans_le (zpow_le_zpow_right₀ (by norm_num) ?_)).trans_le
        (zpow_pred_le_zpow_sub power)
      push_cast
      omega
    refine iff_of_false ?_ (not_le.mpr small)
    simp only [twoTo_eq]
    omega
  · have digits_iff :=
      le_roundHalfEven_scaleDown_iff numerator denominatorPositive (power - 53)
        (by decide : 2 ^ 53 % 2 = 0)
    rw [half_unit_below] at digits_iff
    rw [← digits_iff]
    simp only [twoTo_eq]
    omega
  · obtain rfl : unit = lastPlace 53 numerator denominator := by omega
    have digits := le_significand numeratorPositive denominatorPositive
    have half : (0 : Rat) < 2 ^ (power - 54) := by positivity
    have great : (2 : Rat) ^ power ≤ numerator / denominator := by
      refine le_trans (zpow_le_zpow_right₀ (by norm_num) ?_) low
      push_cast
      omega
    refine iff_of_true ?_ (by linarith)
    simp only [twoTo_eq]
    omega

/-- A quotient is rounded to a double other than zero exactly above half of the smallest one. -/
theorem roundedBits_pos_iff
    (numeratorPositive : 0 < numerator)
    (denominatorPositive : 0 < denominator) :
    0 < roundedBits numerator denominator ↔
      (2 : Rat) ^ (-1075 : Int) < numerator / denominator := by
  have low := le_value_of_lastPlace 53 numeratorPositive denominatorPositive
  simp only [roundedBits]
  have unitEq : unitExponent numerator denominator =
      max (lastPlace 53 numerator denominator) (-1074) := rfl
  generalize unitExponent numerator denominator = unit at unitEq
  by_cases lowest : unit = -1074
  · have positiveRat : (0 : Rat) < denominator := by exact_mod_cast denominatorPositive
    have scaled :
        scaleDown numerator denominator (-1074) = (numerator * twoTo 1074, denominator) :=
      rfl
    have half_iff : denominator < 2 * (numerator * twoTo 1074) ↔
        (2 : Rat) ^ (-1075 : Int) < numerator / denominator := by
      have units : (2 : Rat) ^ (-1075 : Int) * (2 * (twoTo 1074 : Nat)) = 1 := by
        have two : (2 : Rat) ≠ 0 := by norm_num
        rw [twoTo_cast, ← zpow_one_add₀ two, ← zpow_add₀ two]
        rfl
      have manyPositive : 0 < twoTo 1074 := twoTo_pos 1074
      -- The power stays folded, as it is far too long to be written out.
      generalize twoTo 1074 = many at units manyPositive
      have manyPositiveRat : (0 : Rat) < 2 * many := by
        exact_mod_cast Nat.mul_pos two_pos manyPositive
      rw [eq_div_of_mul_eq manyPositiveRat.ne' units, div_lt_div_iff₀ manyPositiveRat positiveRat,
        one_mul]
      constructor
      · intro ordered
        have orderedRat : (denominator : Rat) < 2 * (numerator * many) := by
          exact_mod_cast ordered
        linarith
      · intro ordered
        have orderedRat : (denominator : Rat) < 2 * (numerator * many) := by linarith
        exact_mod_cast orderedRat
    rw [lowest, scaled, ← half_iff, ← one_le_roundHalfEven_iff denominatorPositive]
    simp only [Int.reduceNeg, Int.reduceAdd, Int.toNat_zero, Nat.zero_mul, Nat.zero_add]
    exact Nat.succ_le_iff.symm
  · have above : 0 < (unit + 1074).toNat := by omega
    refine iff_of_true (Nat.add_pos_left (Nat.mul_pos above (twoTo_pos 52)) _) ?_
    refine lt_of_lt_of_le (zpow_lt_zpow_right₀ (by norm_num) ?_) low
    push_cast
    omega

end Double

/-- A number other than zero has no more digits than it takes. -/
theorem tenTo_length_decimalDigits_le
    {value : Nat}
    (notZero : value ≠ 0) :
    tenTo ((decimalDigits value).length - 1) ≤ value := by
  by_contra less
  rcases Nat.eq_zero_or_pos ((decimalDigits value).length - 1) with noDigits | someDigits
  · rw [noDigits] at less
    exact less (Nat.one_le_iff_ne_zero.mpr notZero)
  · have fewer := (Nat.length_toDigits_le_iff (by decide) someDigits).mpr (Nat.lt_of_not_le less)
    change (decimalDigits value).length ≤ _ at fewer
    omega

/-- Powers of ten outgrow those of eight. -/
theorem two_zpow_le_ten_zpow
    (power : Nat) :
    (2 : Rat) ^ (3 * power : Int) ≤ 10 ^ (power : Int) := by
  rw [zpow_mul, zpow_natCast, zpow_natCast]
  exact pow_le_pow_left₀ (by norm_num) (by norm_num) power

namespace DecimalLiteral

/-- The place of the first digit in front of the point, counted from there. -/
def position (literal : DecimalLiteral) : Int :=
  (decimalDigits literal.digits).length + literal.exponent

/-- The place of the first digit bounds the number. -/
theorem size_lt
    (literal : DecimalLiteral) :
    literal.size < 10 ^ literal.position := by
  have digits : (literal.digits : Rat) < 10 ^ ((decimalDigits literal.digits).length : Int) := by
    rw [← tenTo_cast]
    exact_mod_cast lt_tenTo_length_decimalDigits literal.digits
  rw [size, position, zpow_add₀ (by norm_num)]
  exact mul_lt_mul_of_pos_right digits (by positivity)

theorem le_size
    {literal : DecimalLiteral}
    (someDigit : literal.digits ≠ 0) :
    10 ^ (literal.position - 1) ≤ literal.size := by
  have length : 0 < (decimalDigits literal.digits).length := Nat.length_toDigits_pos
  have digits : (10 : Rat) ^ ((decimalDigits literal.digits).length - 1 : Int) ≤
      literal.digits := by
    have places : ((decimalDigits literal.digits).length - 1 : Int) =
        (((decimalDigits literal.digits).length - 1 : Nat) : Int) := by
      omega
    rw [places, ← tenTo_cast]
    exact_mod_cast tenTo_length_decimalDigits_le someDigit
  have split : literal.position - 1 =
      ((decimalDigits literal.digits).length - 1 : Int) + literal.exponent := by
    rw [position]
    ring
  rw [size, split, zpow_add₀ (by norm_num)]
  exact mul_le_mul_of_nonneg_right digits (by positivity)

end DecimalLiteral

namespace Double

variable {literal : DecimalLiteral}

/-- A literal other than zero has the double of a quotient, unless its first digit stands far
from the point. -/
theorem ofLiteral_of_someDigit
    (someDigit : literal.digits ≠ 0) :
    ofLiteral literal =
      if literal.position < -400 then ofMagnitudeBits literal.negative 0
      else if 400 < literal.position then infinity literal.negative
      else
        match literal.exponent with
        | .ofNat shift => ofRatio literal.negative (literal.digits * tenTo shift) 1
        | .negSucc shift => ofRatio literal.negative literal.digits (tenTo (shift + 1)) := by
  simp only [ofLiteral, someDigit, decide_false, Bool.false_or, decide_eq_true_eq]
  rfl

/-- The double of a literal is zero, infinite or that of a quotient, which only the size of the
literal decides. -/
theorem magnitudeBits_ofLiteral_cases
    (literal : DecimalLiteral) :
    ((ofLiteral literal).magnitudeBits = 0 ∧ literal.size < 2 ^ (-1200 : Int)) ∨
    ((ofLiteral literal).magnitudeBits = infinityBits ∧ (2 : Rat) ^ (1200 : Int) ≤ literal.size) ∨
    ∃ numerator denominator, 0 < numerator ∧ 0 < denominator ∧
      (ofLiteral literal).magnitudeBits = min (roundedBits numerator denominator) infinityBits ∧
      (numerator : Rat) / denominator = literal.size := by
  by_cases noDigit : literal.digits = 0
  · left
    have isZero : ofLiteral literal = ofMagnitudeBits literal.negative 0 := by
      simp [ofLiteral, noDigit]
    rw [isZero, DecimalLiteral.size, noDigit]
    exact ⟨magnitudeBits_ofMagnitudeBits (twoTo_pos 63), by simp⟩
  · rw [ofLiteral_of_someDigit noDigit]
    split
    · next farBelow =>
        refine Or.inl ⟨magnitudeBits_ofMagnitudeBits (twoTo_pos 63), ?_⟩
        calc
          literal.size < 10 ^ literal.position := literal.size_lt
          _ ≤ 10 ^ (-(400 : Nat) : Int) := zpow_le_zpow_right₀ (by norm_num) (by omega)
          _ ≤ 2 ^ (-(3 * (400 : Nat)) : Int) := by
              rw [zpow_neg, zpow_neg]
              exact inv_anti₀ (by positivity) (two_zpow_le_ten_zpow 400)
    · split
      · next farAbove =>
          refine Or.inr (Or.inl ⟨magnitudeBits_ofMagnitudeBits infinityBits_lt, ?_⟩)
          calc
            (2 : Rat) ^ (3 * (400 : Nat) : Int) ≤ 10 ^ ((400 : Nat) : Int) :=
              two_zpow_le_ten_zpow 400
            _ ≤ 10 ^ (literal.position - 1) := zpow_le_zpow_right₀ (by norm_num) (by omega)
            _ ≤ literal.size := DecimalLiteral.le_size noDigit
      · right
        right
        have somePart : 0 < literal.digits := Nat.pos_of_ne_zero noDigit
        rw [DecimalLiteral.size]
        cases literal.exponent with
        | ofNat shift =>
            have positive := Nat.mul_pos somePart (tenTo_pos shift)
            refine ⟨literal.digits * tenTo shift, 1, positive, Nat.one_pos,
              magnitudeBits_ofRatio positive, ?_⟩
            rw [Int.ofNat_eq_natCast, ← tenTo_cast]
            push_cast
            ring
        | negSucc shift =>
            refine ⟨literal.digits, tenTo (shift + 1), somePart, tenTo_pos _,
              magnitudeBits_ofRatio somePart, ?_⟩
            rw [Int.negSucc_eq, zpow_neg, div_eq_mul_inv]
            have places := tenTo_cast (shift + 1)
            push_cast at places ⊢
            rw [places]

/-- The double of a literal is a power of two or beyond from half a unit below it on. -/
theorem power_le_magnitudeBits_iff
    {power : Int}
    (normal : -1021 ≤ power)
    (finite : power ≤ 1024)
    (literal : DecimalLiteral) :
    (power + 1023).toNat * twoTo 52 ≤ (ofLiteral literal).magnitudeBits ↔
      (2 : Rat) ^ power - 2 ^ (power - 54) ≤ literal.size := by
  have halfPositive : (0 : Rat) < 2 ^ (power - 54) := by positivity
  have boundary := zpow_pred_le_zpow_sub power
  rcases magnitudeBits_ofLiteral_cases literal with ⟨bits, small⟩ | ⟨bits, great⟩ |
      ⟨numerator, denominator, numeratorPositive, denominatorPositive, bits, sizeEq⟩
  · have above : (2 : Rat) ^ (-1200 : Int) ≤ 2 ^ (power - 1) :=
      zpow_le_zpow_right₀ (by norm_num) (by omega)
    rw [bits]
    refine iff_of_false ?_ (by linarith)
    simp only [twoTo_eq]
    omega
  · have below : (2 : Rat) ^ power ≤ 2 ^ (1200 : Int) :=
      zpow_le_zpow_right₀ (by norm_num) (by omega)
    rw [bits]
    refine iff_of_true ?_ (by linarith)
    simp only [twoTo_eq, infinityBits_eq]
    omega
  · have inRange : (power + 1023).toNat * twoTo 52 ≤ infinityBits := by
      simp only [twoTo_eq, infinityBits_eq]
      omega
    rw [bits, ← sizeEq, ← power_le_roundedBits_iff normal numeratorPositive denominatorPositive,
      Nat.le_min]
    exact and_iff_left inRange

/-- The least number whose double is infinite. -/
def leastInfinite : Rat := 2 ^ 1024 - 2 ^ 970

/-- The greatest number whose double is zero. -/
def greatestZero : Rat := 2 ^ (-1075 : Int)

/-- The double of a literal is finite exactly below half a unit beyond the greatest double. -/
theorem isFinite_ofLiteral_iff
    (literal : DecimalLiteral) :
    (ofLiteral literal).isFinite = true ↔ literal.size < leastInfinite := by
  have reaches : infinityBits ≤ (ofLiteral literal).magnitudeBits ↔ leastInfinite ≤ literal.size :=
    power_le_magnitudeBits_iff (by decide) (by decide : (1024 : Int) ≤ 1024) literal
  rw [isFinite, decide_eq_true_eq, ← not_le, reaches, not_le]

/-- The double of a literal is not zero exactly above half of the smallest one. -/
theorem magnitudeBits_ofLiteral_pos_iff
    (literal : DecimalLiteral) :
    0 < (ofLiteral literal).magnitudeBits ↔ greatestZero < literal.size := by
  rw [greatestZero]
  rcases magnitudeBits_ofLiteral_cases literal with ⟨bits, small⟩ | ⟨bits, great⟩ |
      ⟨numerator, denominator, numeratorPositive, denominatorPositive, bits, sizeEq⟩
  · have above : (2 : Rat) ^ (-1200 : Int) ≤ 2 ^ (-1075 : Int) :=
      zpow_le_zpow_right₀ (by norm_num) (by norm_num)
    rw [bits]
    exact iff_of_false (by omega) (by linarith)
  · have below : (2 : Rat) ^ (-1075 : Int) < 2 ^ (1200 : Int) :=
      zpow_lt_zpow_right₀ (by norm_num) (by norm_num)
    rw [bits, infinityBits_eq]
    exact iff_of_true (by omega) (by linarith)
  · rw [bits, ← sizeEq, ← roundedBits_pos_iff numeratorPositive denominatorPositive,
      infinityBits_eq]
    omega

theorem isZero_ofLiteral_iff
    (literal : DecimalLiteral) :
    (ofLiteral literal).magnitudeBits = 0 ↔ literal.size ≤ greatestZero := by
  rw [← not_lt, ← magnitudeBits_ofLiteral_pos_iff, Nat.pos_iff_ne_zero, not_not]

theorem greatestZero_pos : 0 < greatestZero := by
  rw [greatestZero]
  positivity

/-- The numbers whose doubles are zero lie far below the last place of a decimal. -/
theorem greatestZero_lt : greatestZero < 10 ^ (-57 : Int) := by
  calc
    greatestZero ≤ 2 ^ (-200 : Int) := zpow_le_zpow_right₀ (by norm_num) (by norm_num)
    _ < 10 ^ (-57 : Int) := by norm_num

/-- The range of the mantissa of a decimal lies far below the numbers with infinite doubles. -/
theorem lt_leastInfinite : 2 ^ 96 < leastInfinite := by
  have unit : (2 : Rat) ^ 96 ≤ 2 ^ 970 := pow_le_pow_right₀ (by norm_num) (by norm_num)
  have split : (2 : Rat) ^ 1024 = 2 ^ 970 * 2 ^ 54 := by rw [← pow_add]
  rw [leastInfinite, split]
  generalize (2 : Rat) ^ 970 = great at unit
  linarith

end Double

end IntentPolicy
