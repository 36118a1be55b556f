import IntentPolicy.Number.Decimal
import IntentPolicy.Number.Literal
import IntentPolicy.Proofs.Number.DoubleRange

namespace IntentPolicy

/-!
# Exact values

The rational numbers that decimals and literals denote, as a sign in front of an integer that a
power of ten scales.
-/

/-- The factor that a sign stands for. -/
def signFactor (negative : Bool) : Rat :=
  if negative then -1 else 1

theorem tenTo_cast (power : Nat) : ((tenTo power : Nat) : Rat) = 10 ^ (power : Int) := by
  rw [tenTo_eq, zpow_natCast]
  push_cast
  rfl

namespace Magnitude

/-- The number that an unsigned decimal denotes. -/
def value (magnitude : Magnitude) : Rat :=
  magnitude.mantissa / 10 ^ magnitude.scale

theorem value_nonneg
    (magnitude : Magnitude) :
    0 ≤ magnitude.value := by
  rw [value]
  positivity

/-- The smallest units make up the number. -/
theorem units_div
    (magnitude : Magnitude) :
    (magnitude.units : Rat) / tenTo 28 = magnitude.value := by
  have places : (tenTo 28 : Rat) = tenTo (28 - magnitude.scale) * 10 ^ magnitude.scale := by
    have split := tenTo_add (28 - magnitude.scale) magnitude.scale
    rw [Nat.sub_add_cancel magnitude.scale_le] at split
    rw [split]
    push_cast [tenTo_eq]
    rfl
  have positive : (0 : Rat) < tenTo (28 - magnitude.scale) := by
    exact_mod_cast tenTo_pos _
  rw [value, units, places]
  push_cast
  field_simp

end Magnitude

namespace Decimal

/-- A decimal denotes its magnitude under its sign. -/
theorem value_eq
    (amount : Decimal) :
    amount.value = signFactor amount.negative * amount.toMagnitude.value := by
  rw [value, Rat.mkRat_eq_div, units, ← Magnitude.units_div, signFactor]
  split
  · push_cast
    ring
  · push_cast
    ring

/-- A decimal without a sign denotes nothing below zero. -/
theorem value_nonneg
    {amount : Decimal}
    (notNegative : amount.isNegative = false) :
    0 ≤ amount.value := by
  have factor : signFactor amount.negative = 1 := by
    rw [signFactor, if_neg (by simpa [isNegative] using notNegative)]
  rw [value_eq, factor, one_mul]
  exact amount.toMagnitude.value_nonneg

end Decimal

namespace DecimalLiteral

/-- The number of a literal without its sign. -/
def size (literal : DecimalLiteral) : Rat :=
  literal.digits * 10 ^ literal.exponent

theorem size_nonneg
    (literal : DecimalLiteral) :
    0 ≤ literal.size := by
  rw [size]
  positivity

/-- A literal denotes its size under its sign. -/
theorem value_eq
    (literal : DecimalLiteral) :
    literal.value = signFactor literal.negative * literal.size := by
  obtain ⟨negative, digits, exponent⟩ := literal
  have signed (magnitude : Rat) :
      (if negative then -magnitude else magnitude) = signFactor negative * magnitude := by
    rw [signFactor]
    split
    · ring
    · ring
  cases exponent with
  | ofNat power =>
      have places := tenTo_cast power
      simp only [value, size, signed, Rat.mkRat_eq_div, Int.ofNat_eq_natCast, ← places]
      push_cast
      ring
  | negSucc power =>
      have places := tenTo_cast (power + 1)
      simp only [value, size, signed, Rat.mkRat_eq_div, Int.negSucc_eq, zpow_neg]
      push_cast at places ⊢
      rw [places]
      ring

end DecimalLiteral

end IntentPolicy
