import IntentPolicy.Number.Double
import Mathlib.Algebra.Order.Field.Power
import Mathlib.Data.Rat.Cast.Order
import Mathlib.Tactic.FieldSimp
import Mathlib.Tactic.Linarith
import Mathlib.Tactic.Positivity
import Mathlib.Tactic.Ring

namespace IntentPolicy

/-!
# The range of doubles

Which binary digits of a quotient the nearest double keeps.  They depend on the size of the
quotient alone.
-/

theorem twoTo_eq (power : Nat) : twoTo power = 2 ^ power := rfl

theorem tenTo_eq (power : Nat) : tenTo power = 10 ^ power := rfl

theorem twoTo_cast (power : Nat) : ((twoTo power : Nat) : Rat) = 2 ^ (power : Int) := by
  rw [twoTo_eq, zpow_natCast]
  push_cast
  rfl

theorem twoTo_pos (power : Nat) : 0 < twoTo power :=
  Nat.pow_pos (by decide)

theorem tenTo_pos (power : Nat) : 0 < tenTo power :=
  Nat.pow_pos (by decide)

theorem twoTo_le_twoTo
    {power greater : Nat}
    (ordered : power ≤ greater) :
    twoTo power ≤ twoTo greater :=
  Nat.pow_le_pow_right (by decide) ordered

theorem tenTo_le_tenTo
    {power greater : Nat}
    (ordered : power ≤ greater) :
    tenTo power ≤ tenTo greater :=
  Nat.pow_le_pow_right (by decide) ordered

theorem tenTo_add
    (power more : Nat) :
    tenTo (power + more) = tenTo power * tenTo more :=
  Nat.pow_add 10 power more

namespace Double

theorem magnitudeBits_ofMagnitudeBits
    {negative : Bool}
    {magnitude : Nat}
    (inRange : magnitude < twoTo 63) :
    (ofMagnitudeBits negative magnitude).magnitudeBits = magnitude := by
  simp only [twoTo_eq] at inRange
  simp only [magnitudeBits, ofMagnitudeBits, twoTo_eq, UInt64.toNat_ofNat']
  cases negative <;> simp <;> omega

theorem isNegative_ofMagnitudeBits
    {negative : Bool}
    {magnitude : Nat}
    (inRange : magnitude < twoTo 63) :
    (ofMagnitudeBits negative magnitude).isNegative = negative := by
  simp only [twoTo_eq] at inRange
  simp only [isNegative, ofMagnitudeBits, twoTo_eq, UInt64.toNat_ofNat']
  cases negative <;> simp <;> omega

theorem infinityBits_eq : infinityBits = 2047 * 2 ^ 52 := rfl

theorem infinityBits_lt : infinityBits < twoTo 63 := by
  simp only [infinityBits_eq, twoTo_eq]
  omega

theorem not_isFinite_infinity (negative : Bool) : (infinity negative).isFinite = false := by
  simp only [isFinite, infinity, magnitudeBits_ofMagnitudeBits infinityBits_lt]
  simp

theorem not_isFinite_nan : nan.isFinite = false := by
  have inRange : infinityBits + twoTo 51 < twoTo 63 := by
    simp only [infinityBits_eq, twoTo_eq]
    omega
  simp only [isFinite, nan, magnitudeBits_ofMagnitudeBits inRange]
  simp

theorem not_isNaN_of_isFinite
    {number : Double}
    (finite : number.isFinite = true) :
    number.isNaN = false := by
  simp only [isFinite, isNaN, decide_eq_true_eq, decide_eq_false_iff_not] at finite ⊢
  omega

/-- A finite double is not below zero exactly when it has no sign or is zero. -/
theorem zero_le_iff
    {number : Double}
    (finite : number.isFinite = true) :
    zero.le number = true ↔ number.isNegative = false ∨ number.magnitudeBits = 0 := by
  have zeroBits : zero.magnitudeBits = 0 := magnitudeBits_ofMagnitudeBits (twoTo_pos 63)
  have zeroSign : zero.isNegative = false := isNegative_ofMagnitudeBits (twoTo_pos 63)
  have zeroFinite : zero.isFinite = true := by
    simp only [isFinite, zeroBits]
    decide
  simp only [le, not_isNaN_of_isFinite finite, not_isNaN_of_isFinite zeroFinite, orderKey,
    zeroSign, zeroBits]
  cases number.isNegative <;> simp

/-- Rounding goes up by one at most. -/
theorem roundHalfEven_le
    (numerator denominator : Nat) :
    roundHalfEven numerator denominator ≤ numerator / denominator + 1 := by
  simp only [roundHalfEven]
  split
  · omega
  · split <;> omega

/-- Rounding never goes below the whole part. -/
theorem le_roundHalfEven
    (numerator denominator : Nat) :
    numerator / denominator ≤ roundHalfEven numerator denominator := by
  simp only [roundHalfEven]
  split
  · omega
  · split <;> omega

/-- Scaling divides the value of a quotient by a power of two. -/
theorem scaleDown_value
    {numerator denominator : Nat}
    (unit : Int) :
    ((scaleDown numerator denominator unit).1 : Rat) / (scaleDown numerator denominator unit).2 =
      numerator / denominator / 2 ^ unit := by
  cases unit with
  | ofNat shift =>
      simp only [scaleDown, twoTo_eq, Int.ofNat_eq_natCast, zpow_natCast, Nat.cast_mul,
        Nat.cast_pow, Nat.cast_ofNat]
      rw [div_div]
  | negSucc shift =>
      simp only [scaleDown, twoTo_eq, zpow_negSucc, Nat.cast_mul, Nat.cast_pow, Nat.cast_ofNat]
      field_simp

theorem scaleDown_denominator_pos
    (numerator : Nat)
    {denominator : Nat}
    (positive : 0 < denominator)
    (unit : Int) :
    0 < (scaleDown numerator denominator unit).2 := by
  cases unit with
  | ofNat shift => exact Nat.mul_pos positive (twoTo_pos shift)
  | negSucc shift => exact positive

/-- The whole part of a scaled quotient lies below a power of two if the quotient does. -/
theorem scaleDown_div_lt_iff
    {numerator denominator : Nat}
    (positive : 0 < denominator)
    (unit : Int)
    (power : Nat) :
    (scaleDown numerator denominator unit).1 / (scaleDown numerator denominator unit).2
        < 2 ^ power ↔
      (numerator : Rat) / denominator < 2 ^ (unit + power) := by
  have scaledPositive := scaleDown_denominator_pos numerator positive unit
  have scaledPositiveRat :
      (0 : Rat) < (scaleDown numerator denominator unit).2 := by
    exact_mod_cast scaledPositive
  have unitPositive : (0 : Rat) < 2 ^ unit := by positivity
  rw [Nat.div_lt_iff_lt_mul scaledPositive, zpow_add₀ (by norm_num), zpow_natCast,
    mul_comm ((2 : Rat) ^ unit), ← div_lt_iff₀ unitPositive, ← scaleDown_value,
    div_lt_iff₀ scaledPositiveRat]
  exact_mod_cast Iff.rfl

/-- The size of a positive quotient by the lengths of its parts. -/
theorem log2_bounds
    {numerator denominator : Nat}
    (numeratorPositive : 0 < numerator)
    (denominatorPositive : 0 < denominator) :
    (2 : Rat) ^ ((numerator.log2 : Int) - denominator.log2 - 1) < numerator / denominator ∧
      (numerator : Rat) / denominator < 2 ^ ((numerator.log2 : Int) - denominator.log2 + 1) := by
  have numeratorLow : (2 : Rat) ^ numerator.log2 ≤ numerator := by
    exact_mod_cast Nat.log2_self_le numeratorPositive.ne'
  have numeratorHigh : (numerator : Rat) < 2 ^ (numerator.log2 + 1) := by
    exact_mod_cast Nat.lt_log2_self
  have denominatorLow : (2 : Rat) ^ denominator.log2 ≤ denominator := by
    exact_mod_cast Nat.log2_self_le denominatorPositive.ne'
  have denominatorHigh : (denominator : Rat) < 2 ^ (denominator.log2 + 1) := by
    exact_mod_cast Nat.lt_log2_self
  have denominatorRat : (0 : Rat) < denominator := by exact_mod_cast denominatorPositive
  have two : (2 : Rat) ≠ 0 := by norm_num
  constructor
  · rw [lt_div_iff₀ denominatorRat]
    calc (2 : Rat) ^ ((numerator.log2 : Int) - denominator.log2 - 1) * denominator
        < 2 ^ ((numerator.log2 : Int) - denominator.log2 - 1) * 2 ^ (denominator.log2 + 1) := by
          apply mul_lt_mul_of_pos_left denominatorHigh
          positivity
      _ = 2 ^ numerator.log2 := by
          rw [← zpow_natCast, ← zpow_natCast, ← zpow_add₀ two]
          congr 1
          push_cast
          ring
      _ ≤ numerator := numeratorLow
  · rw [div_lt_iff₀ denominatorRat]
    calc (numerator : Rat) < 2 ^ (numerator.log2 + 1) := numeratorHigh
      _ = 2 ^ ((numerator.log2 : Int) - denominator.log2 + 1) * 2 ^ denominator.log2 := by
          rw [← zpow_natCast, ← zpow_natCast, ← zpow_add₀ two]
          congr 1
          push_cast
          ring
      _ ≤ 2 ^ ((numerator.log2 : Int) - denominator.log2 + 1) * denominator := by
          apply mul_le_mul_of_nonneg_left denominatorLow
          positivity

/-- A quotient has no more binary digits above its last place than it was given. -/
theorem value_lt_of_lastPlace
    (precision : Nat)
    {numerator denominator : Nat}
    (numeratorPositive : 0 < numerator)
    (denominatorPositive : 0 < denominator) :
    (numerator : Rat) / denominator <
      2 ^ (lastPlace precision numerator denominator + precision) := by
  let guess : Int := (numerator.log2 : Int) - denominator.log2 - precision
  by_cases fits :
      (scaleDown numerator denominator guess).1 / (scaleDown numerator denominator guess).2
        < twoTo precision
  · have place : lastPlace precision numerator denominator = guess := if_pos fits
    rw [place]
    exact (scaleDown_div_lt_iff denominatorPositive guess precision).mp fits
  · have place : lastPlace precision numerator denominator = guess + 1 := if_neg fits
    have sum : guess + 1 + precision = (numerator.log2 : Int) - denominator.log2 + 1 := by
      ring
    rw [place, sum]
    exact (log2_bounds numeratorPositive denominatorPositive).2

/-- A quotient has as many binary digits above its last place as it was given. -/
theorem le_value_of_lastPlace
    (precision : Nat)
    {numerator denominator : Nat}
    (numeratorPositive : 0 < numerator)
    (denominatorPositive : 0 < denominator) :
    (2 : Rat) ^ (lastPlace precision numerator denominator + precision - 1) ≤
      numerator / denominator := by
  let guess : Int := (numerator.log2 : Int) - denominator.log2 - precision
  by_cases fits :
      (scaleDown numerator denominator guess).1 / (scaleDown numerator denominator guess).2
        < twoTo precision
  · have place : lastPlace precision numerator denominator = guess := if_pos fits
    have sum : guess + precision - 1 = (numerator.log2 : Int) - denominator.log2 - 1 := by
      ring
    rw [place, sum]
    exact (log2_bounds numeratorPositive denominatorPositive).1.le
  · have place : lastPlace precision numerator denominator = guess + 1 := if_neg fits
    have sum : guess + 1 + precision - 1 = guess + precision := by ring
    rw [place, sum]
    exact not_lt.mp fun below =>
      fits ((scaleDown_div_lt_iff denominatorPositive guess precision).mpr below)

/-- The magnitude bits before they are cut at infinity. -/
def roundedBits (numerator denominator : Nat) : Nat :=
  let unit := unitExponent numerator denominator
  let scaled := scaleDown numerator denominator unit
  (unit + 1074).toNat * twoTo 52 + roundHalfEven scaled.1 scaled.2

/-- A positive quotient is rounded to the double of its rounded bits. -/
theorem ofRatio_eq
    {negative : Bool}
    {numerator denominator : Nat}
    (numeratorPositive : 0 < numerator) :
    ofRatio negative numerator denominator =
      ofMagnitudeBits negative (min (roundedBits numerator denominator) infinityBits) := by
  simp only [ofRatio, numeratorPositive.ne', ↓reduceIte, roundedBits]

theorem isNegative_ofRatio
    {negative : Bool}
    {numerator denominator : Nat} :
    (ofRatio negative numerator denominator).isNegative = negative := by
  rcases Nat.eq_zero_or_pos numerator with rfl | positive
  · simp only [ofRatio, ↓reduceIte]
    exact isNegative_ofMagnitudeBits (twoTo_pos 63)
  · rw [ofRatio_eq positive]
    apply isNegative_ofMagnitudeBits
    exact Nat.lt_of_le_of_lt (Nat.min_le_right _ _) infinityBits_lt

/-- The magnitude bits of a rounded quotient. -/
theorem magnitudeBits_ofRatio
    {negative : Bool}
    {numerator denominator : Nat}
    (numeratorPositive : 0 < numerator) :
    (ofRatio negative numerator denominator).magnitudeBits =
      min (roundedBits numerator denominator) infinityBits := by
  rw [ofRatio_eq numeratorPositive]
  apply magnitudeBits_ofMagnitudeBits
  exact Nat.lt_of_le_of_lt (Nat.min_le_right _ _) infinityBits_lt

end Double

end IntentPolicy
