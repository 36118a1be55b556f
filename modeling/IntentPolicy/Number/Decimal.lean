import IntentPolicy.Number.Digits

namespace IntentPolicy

/-!
# Exact decimal amounts

A decimal is a sign, a mantissa of 96 bits and a scale of at most 28: the number
`± mantissa / 10 ^ scale`.  It keeps its scale, so `1.5` and `1.50` are two decimals of
one value.  Zero carries no sign, unless it is what a cut has left of an amount below zero.
-/

/-- An unsigned decimal: `mantissa / 10 ^ scale` within 96 bits and 28 places. -/
structure Magnitude where
  mantissa : Nat
  scale : Nat
  mantissa_lt : mantissa < twoTo 96
  scale_le : scale ≤ 28
  deriving Repr, DecidableEq

/-- A decimal amount that keeps its scale. -/
structure Decimal extends Magnitude where
  negative : Bool
  deriving Repr, DecidableEq

namespace Magnitude

/-- Zero without a fraction. -/
def zero : Magnitude := ⟨0, 0, by decide, by decide⟩

instance : Inhabited Magnitude := ⟨zero⟩

/-- The magnitude with the given parts, if they are in range. -/
def ofParts? (mantissa scale : Nat) : Option Magnitude :=
  if inRange : mantissa < twoTo 96 ∧ scale ≤ 28 then
    some ⟨mantissa, scale, inRange.1, inRange.2⟩
  else none

/-- The magnitude in units of the smallest place a decimal can have. -/
def units (magnitude : Magnitude) : Nat :=
  magnitude.mantissa * tenTo (28 - magnitude.scale)

theorem dropFractionZeros_fst_le (mantissa scale : Nat) :
    (dropFractionZeros mantissa scale).1 ≤ mantissa := by
  induction scale generalizing mantissa with
  | zero => simp [dropFractionZeros]
  | succ scale inductionHypothesis =>
      rw [dropFractionZeros]
      split
      · exact Nat.le_trans (inductionHypothesis (mantissa / 10)) (Nat.div_le_self mantissa 10)
      · exact Nat.le_refl mantissa

theorem dropFractionZeros_snd_le (mantissa scale : Nat) :
    (dropFractionZeros mantissa scale).2 ≤ scale := by
  induction scale generalizing mantissa with
  | zero => simp [dropFractionZeros]
  | succ scale inductionHypothesis =>
      rw [dropFractionZeros]
      split
      · exact Nat.le_trans (inductionHypothesis (mantissa / 10)) (Nat.le_succ scale)
      · exact Nat.le_refl (scale + 1)

/-- The same value without zeros at the end of the fraction. -/
def normalize (magnitude : Magnitude) : Magnitude where
  mantissa := (dropFractionZeros magnitude.mantissa magnitude.scale).1
  scale := (dropFractionZeros magnitude.mantissa magnitude.scale).2
  mantissa_lt :=
    Nat.lt_of_le_of_lt (dropFractionZeros_fst_le _ _) magnitude.mantissa_lt
  scale_le :=
    Nat.le_trans (dropFractionZeros_snd_le _ _) magnitude.scale_le

end Magnitude

namespace Decimal

/-- The decimal of a magnitude, with the sign dropped from zero. -/
def signed (negative : Bool) (magnitude : Magnitude) : Decimal where
  toMagnitude := magnitude
  negative := negative && magnitude.mantissa != 0

/-- Zero without a fraction. -/
def zero : Decimal := signed false Magnitude.zero

/-- One without a fraction. -/
def one : Decimal := signed false ⟨1, 0, by decide, by decide⟩

instance : Inhabited Decimal := ⟨zero⟩

/-- The decimal with the given parts, if they are in range. -/
def ofParts? (negative : Bool) (mantissa scale : Nat) : Option Decimal :=
  (Magnitude.ofParts? mantissa scale).map (signed negative)

/-- The signed amount in units of the smallest place a decimal can have. -/
def units (amount : Decimal) : Int :=
  if amount.negative then -(amount.toMagnitude.units : Int) else amount.toMagnitude.units

/-- The rational number that the decimal denotes. -/
def value (amount : Decimal) : Rat :=
  mkRat amount.units (tenTo 28)

/-- The two decimals denote one number, whatever their scales. -/
def sameValue (left right : Decimal) : Bool :=
  left.units == right.units

/-- The amount is above zero. -/
def isPositive (amount : Decimal) : Bool :=
  0 < amount.units

/-- The amount has the sign of those below zero. -/
def isNegative (amount : Decimal) : Bool :=
  amount.negative

/-- The same value without zeros at the end of the fraction. -/
def normalize (amount : Decimal) : Decimal :=
  signed amount.negative amount.toMagnitude.normalize

/-- The positional text of a decimal, every digit of its scale shown. -/
def characters (amount : Decimal) : List Char :=
  positionalText amount.negative amount.mantissa amount.scale

/-- The positional text of a decimal, every digit of its scale shown. -/
def text (amount : Decimal) : String :=
  String.ofList amount.characters

end Decimal

end IntentPolicy
