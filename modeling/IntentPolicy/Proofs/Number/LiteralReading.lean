import IntentPolicy.Proofs.Number.PointShift

namespace IntentPolicy

/-!
# Which literals are read as decimals

A literal is read as a decimal if its base, its exponent and its number are all in range.  Where
its number is a decimal, it is read as that one exactly if its base is a decimal as well.
-/

namespace LiteralParts

variable {parts : LiteralParts} {unsigned point exponent : List Char}

/-- The number of a literal without its sign and its exponent. -/
def base (parts : LiteralParts) : Rat :=
  digitsValue (parts.whole ++ parts.fraction) / 10 ^ parts.fraction.length

/-- A literal whose base and exponent are in range of decimals. -/
structure InReach (parts : LiteralParts) : Prop where
  base : parts.base < decimalBound
  exponent : -28 ≤ parts.exponent ∧ parts.exponent ≤ 28

theorem base_nonneg
    (parts : LiteralParts) :
    0 ≤ parts.base := by
  rw [base]
  positivity

theorem size_ofParts
    (parts : LiteralParts) :
    (DecimalLiteral.ofParts parts).size = parts.base * 10 ^ parts.exponent := by
  rw [DecimalLiteral.size, DecimalLiteral.ofParts, base, zpow_sub₀ (by norm_num), zpow_natCast]
  field_simp

/-- The base of a literal is read as the nearest decimal under its sign, if there is one in
range. -/
theorem readBase?_cases
    (shape : parts.Shape unsigned point exponent) :
    (∃ base, parts.readBase? point = some base ∧
        (base.negative = true → parts.negative = true) ∧
        base.toMagnitude.Approximates parts.base) ∨
      (parts.readBase? point = none ∧ decimalBound ≤ parts.base) := by
  have reads : Magnitude.Reads _ (Magnitude.zero.readWhole false (parts.whole ++ point)) :=
    Magnitude.reads_readWhole shape.wholeDigits shape.fractionDigits shape.fractionText rfl
      (Or.inr shape.someDigit)
  have number :
      10 ^ parts.whole.length * (Magnitude.zero.mantissa : Rat) + digitsValue parts.whole +
          digitsValue parts.fraction / 10 ^ parts.fraction.length =
        parts.base := by
    rw [base, digitsValue_append, tenTo_eq]
    push_cast [Magnitude.zero]
    field_simp
    ring
  rw [number] at reads
  rw [parts.readBase?_of_readWhole]
  cases read : Magnitude.zero.readWhole false (parts.whole ++ point) with
  | ok magnitude =>
      rw [read] at reads
      exact Or.inl ⟨Decimal.signed parts.negative magnitude, rfl,
        fun below => (Bool.and_eq_true_iff.mp below).1, reads⟩
  | error reason =>
      rw [read] at reads
      exact Or.inr ⟨rfl, reads⟩

end LiteralParts

/-- A literal is read as a decimal if it is in reach and its number in range, and as its own
number, if that is a decimal, exactly if its base is one. -/
theorem Decimal.ofText?_cases
    {token : String}
    {parts : LiteralParts}
    (read : LiteralParts.read? token.toList = some parts) :
    let size := (DecimalLiteral.ofParts parts).size
    (∃ amount, Decimal.ofText? token = some amount ∧ parts.InReach ∧ size < decimalBound ∧
      (IsDecimalValue size →
        (amount.toMagnitude.value = size ↔ IsDecimalValue parts.base))) ∨
    (Decimal.ofText? token = none ∧ ¬ (parts.InReach ∧ size < decimalBound)) := by
  intro size
  obtain ⟨unsigned, point, exponent, split, shape⟩ := LiteralParts.shape_of_read? read
  rw [Decimal.ofText?_of_shape split shape]
  have sizeEq : size = parts.base * 10 ^ parts.exponent := parts.size_ofParts
  rw [sizeEq]
  rcases LiteralParts.readBase?_cases shape with ⟨base, baseRead, -, approximated⟩ |
      ⟨notRead, tooGreat⟩
  · have baseInRange : parts.base < decimalBound := by
      simpa using approximated.mul_lt_decimalBound parts.base_nonneg (Nat.zero_le _)
    rw [baseRead, Option.bind_some]
    rcases Decimal.scale?_cases approximated parts.base_nonneg parts.exponent with
        ⟨amount, scaled, inRange, small, exactly⟩ | ⟨noAmount, outOfRange⟩
    · exact Or.inl ⟨amount, scaled, ⟨baseInRange, inRange⟩, small, exactly⟩
    · exact Or.inr ⟨noAmount, fun ⟨inReach, small⟩ => outOfRange ⟨inReach.exponent, small⟩⟩
  · rw [notRead]
    exact Or.inr ⟨rfl, fun ⟨inReach, _⟩ => absurd inReach.base (not_lt.mpr tooGreat)⟩

end IntentPolicy
