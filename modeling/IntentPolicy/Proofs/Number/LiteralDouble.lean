import IntentPolicy.Proofs.Number.DoubleBoundary
import IntentPolicy.Proofs.Number.NonzeroReading

namespace IntentPolicy.Double

/-!
# The doubles of literals

A literal within the range of decimals has a finite double of the literal's sign, which is
zero only if the literal has no digit where a decimal could see it.
-/

variable {literal : DecimalLiteral}

theorem isNegative_ofLiteral
    (literal : DecimalLiteral) :
    (ofLiteral literal).isNegative = literal.negative := by
  simp only [ofLiteral]
  split
  · exact isNegative_ofMagnitudeBits (twoTo_pos 63)
  · split
    · exact isNegative_ofMagnitudeBits infinityBits_lt
    · split <;> exact isNegative_ofRatio

/-- An integer of 96 bits with the point moved to the left has a finite double. -/
theorem isFinite_ofLiteral
    (inRange : literal.digits < twoTo 96)
    (noGreater : literal.exponent ≤ 0) :
    (ofLiteral literal).isFinite = true := by
  have digits : (literal.digits : Rat) < 2 ^ 96 := by exact_mod_cast inRange
  have shrunk : (10 : Rat) ^ literal.exponent ≤ 1 :=
    zpow_le_one_of_nonpos₀ (by norm_num) noGreater
  rw [isFinite_ofLiteral_iff]
  calc
    literal.size ≤ literal.digits * 1 := mul_le_mul_of_nonneg_left shrunk (by positivity)
    _ < 2 ^ 96 := by rwa [mul_one]
    _ < leastInfinite := lt_leastInfinite

/-- A literal that backs an amount has a double other than zero. -/
theorem magnitudeBits_ofLiteral_pos_of_backs
    {parts : LiteralParts}
    {amount : Decimal}
    (backs : parts.Backs amount) :
    0 < (ofLiteral (.ofParts parts)).magnitudeBits := by
  have visible : (10 : Rat) ^ (parts.fraction.length : Int) ≤
      digitsValue (parts.whole ++ parts.fraction) * 10 ^ (29 : Int) := by
    rw [← tenTo_cast]
    exact_mod_cast backs.visible
  have ten : (10 : Rat) ≠ 0 := by norm_num
  rw [magnitudeBits_ofLiteral_pos_iff, DecimalLiteral.size, DecimalLiteral.ofParts]
  calc
    greatestZero < 10 ^ (-57 : Int) := greatestZero_lt
    _ = 10 ^ (parts.fraction.length : Int) * 10 ^ (-29 - 28 - parts.fraction.length : Int) := by
        rw [← zpow_add₀ ten]
        congr 1
        ring
    _ ≤ digitsValue (parts.whole ++ parts.fraction) * 10 ^ (29 : Int) *
          10 ^ (-29 - 28 - parts.fraction.length : Int) :=
        mul_le_mul_of_nonneg_right visible (by positivity)
    _ = digitsValue (parts.whole ++ parts.fraction) *
          10 ^ (-28 - parts.fraction.length : Int) := by
        rw [mul_assoc, ← zpow_add₀ ten]
        congr 2
        ring
    _ ≤ digitsValue (parts.whole ++ parts.fraction) *
          10 ^ (parts.exponent - parts.fraction.length) := by
        have smallShift := backs.smallShift
        refine mul_le_mul_of_nonneg_left (zpow_le_zpow_right₀ (by norm_num) ?_) (by positivity)
        omega

end IntentPolicy.Double
