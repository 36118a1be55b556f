import IntentPolicy.Proofs.Number.LiteralReading

namespace IntentPolicy

/-!
# What amounts above zero are read from

A decimal has 28 places, and the next digit may still round it up.  So whatever is read as
an amount other than zero has a digit other than zero among these, and lies far above the
smallest double.
-/

namespace LiteralParts

/-- The digits of a literal are not all zeros where a decimal looks at them. -/
def IsVisible (parts : LiteralParts) : Prop :=
  tenTo parts.fraction.length ≤ digitsValue (parts.whole ++ parts.fraction) * tenTo 29

/-- What a literal must be for an amount other than zero to be read from it. -/
structure Backs (parts : LiteralParts) (amount : Decimal) : Prop where
  visible : parts.IsVisible
  smallShift : -28 ≤ parts.exponent
  sameSign : amount.negative = true → parts.negative = true

/-- A base that is read as a mantissa other than zero has a digit other than zero among the
places of a decimal and the next. -/
theorem isVisible_of_approximates
    {parts : LiteralParts}
    {magnitude : Magnitude}
    (approximated : magnitude.Approximates parts.base)
    (notZero : magnitude.mantissa ≠ 0) :
    parts.IsVisible := by
  have atLeastOne : (1 : Rat) ≤ magnitude.mantissa := by
    exact_mod_cast Nat.one_le_iff_ne_zero.mpr notZero
  have fewPlaces : (10 : Rat) ^ magnitude.scale ≤ 10 ^ 28 :=
    pow_le_pow_right₀ (by norm_num) magnitude.scale_le
  have half : 1 / 2 ≤ parts.base * 10 ^ 28 := by
    have noMore := mul_le_mul_of_nonneg_left fewPlaces parts.base_nonneg
    linarith [approximated.notAbove]
  have digits : parts.base * 10 ^ parts.fraction.length =
      (digitsValue (parts.whole ++ parts.fraction) : Nat) := by
    rw [base]
    field_simp
  have visible : (10 : Rat) ^ parts.fraction.length ≤
      digitsValue (parts.whole ++ parts.fraction) * 10 ^ 29 := by
    have positive : (0 : Rat) < 10 ^ parts.fraction.length := by positivity
    have spread := mul_le_mul_of_nonneg_right half positive.le
    rw [← digits]
    linarith
  rw [IsVisible, tenTo_eq, tenTo_eq]
  exact_mod_cast visible

end LiteralParts

namespace Decimal

/-- What becomes of an amount: it stays zero, and does not turn negative. -/
structure Follows (amount base : Decimal) : Prop where
  staysZero : base.mantissa = 0 → amount.mantissa = 0
  sameSign : amount.negative = true → base.negative = true

/-- A decimal of given parts has the given mantissa, and the sign only if it was given. -/
theorem parts_of_ofParts?
    {negative : Bool}
    {mantissa scale : Nat}
    {amount : Decimal}
    (made : ofParts? negative mantissa scale = some amount) :
    amount.mantissa = mantissa ∧ (amount.negative = true → negative = true) := by
  obtain ⟨magnitude, parts, rfl⟩ := Option.map_eq_some_iff.mp made
  exact ⟨(Magnitude.ofParts?_eq_some_iff.mp parts).1,
    fun below => (Bool.and_eq_true_iff.mp below).1⟩

theorem follows_of_ofParts?
    {base amount : Decimal}
    {scale : Nat}
    (made : ofParts? base.negative base.mantissa scale = some amount) :
    amount.Follows base where
  staysZero := fun noMantissa => (parts_of_ofParts? made).1.trans noMantissa
  sameSign := (parts_of_ofParts? made).2

/-- Normalizing keeps zero, and the sign of what is not zero. -/
theorem normalize_follows
    (amount : Decimal) :
    amount.normalize.Follows amount where
  staysZero := by
    intro noMantissa
    have noGreater := Magnitude.dropFractionZeros_fst_le amount.mantissa amount.scale
    rw [noMantissa] at noGreater
    exact Nat.le_zero.mp (noMantissa ▸ noGreater)
  sameSign := fun below => (Bool.and_eq_true_iff.mp below).1

/-- Dividing by a power of ten moves the point by 28 places at most. -/
theorem follows_of_shiftRight?
    {cutting : Bool}
    {base amount : Decimal}
    {places : Nat}
    (shifted : shiftRight? cutting base places = some amount) :
    places ≤ 28 ∧ amount.Follows base := by
  unfold shiftRight? at shifted
  split at shifted
  · cases shifted
  · next fewPlaces =>
      refine ⟨by omega, ?_⟩
      split at shifted
      · exact follows_of_ofParts? shifted
      · split at shifted
        · obtain ⟨cut, cutMade, shiftedMade⟩ := Option.bind_eq_some_iff.mp shifted
          obtain ⟨moved, movedMade, rfl⟩ := Option.map_eq_some_iff.mp shiftedMade
          have cutMantissa := (Magnitude.ofParts?_eq_some_iff.mp cutMade).1
          have movedMantissa := (Magnitude.ofParts?_eq_some_iff.mp movedMade).1
          refine ⟨fun noMantissa => ?_, fun below => below⟩
          change moved.mantissa = 0
          rw [movedMantissa, cutMantissa, noMantissa, roundHalfUp]
          apply Nat.div_eq_of_lt
          have positive := tenTo_pos (base.scale - (28 - places))
          omega
        · cases shifted

/-- A product is zero with its first factor, and only factors of two signs make it negative. -/
theorem parts_of_mul?
    {left right product : Decimal}
    (multiplied : left.mul? right = some product) :
    (left.mantissa = 0 → product.mantissa = 0) ∧
      (product.negative = true → left.negative ≠ right.negative) := by
  simp only [mul?] at multiplied
  split at multiplied
  · obtain rfl := Option.some.inj multiplied
    exact ⟨fun _ => rfl, fun below => absurd below (by decide)⟩
  · next notZero =>
      obtain ⟨dropped, -, made⟩ := Option.bind_eq_some_iff.mp multiplied
      constructor
      · intro noMantissa
        rw [noMantissa, Nat.zero_mul] at notZero
        exact (notZero rfl).elim
      · intro below
        exact bne_iff_ne.mp ((parts_of_ofParts? made).2 below)

/-- Multiplying by a power of ten moves the point the other way. -/
theorem follows_of_shiftLeft?
    {base amount : Decimal}
    {places : Nat}
    (shifted : shiftLeft? base places = some amount) :
    amount.Follows base := by
  unfold shiftLeft? at shifted
  split at shifted
  · exact follows_of_ofParts? shifted
  · split at shifted
    · cases shifted
    · obtain ⟨power, powerMade, normalized⟩ := Option.bind_eq_some_iff.mp shifted
      obtain ⟨product, multiplied, rfl⟩ := Option.map_eq_some_iff.mp normalized
      obtain ⟨staysZero, twoSigns⟩ := parts_of_mul? multiplied
      have normal := product.normalize_follows
      refine ⟨fun noMantissa => normal.staysZero (staysZero noMantissa), fun below => ?_⟩
      have differ := twoSigns (normal.sameSign below)
      have powerUnsigned : power.negative = false := by
        apply Bool.eq_false_iff.mpr
        intro powerBelow
        cases (parts_of_ofParts? powerMade).2 powerBelow
      rw [powerUnsigned] at differ
      simpa using differ

theorem follows_of_scale?
    {cutting : Bool}
    {base amount : Decimal}
    {exponent : Int}
    (scaled : base.scale? cutting exponent = some amount) :
    -28 ≤ exponent ∧ amount.Follows base := by
  unfold scale? at scaled
  split at scaled
  · obtain ⟨fewPlaces, follows⟩ := follows_of_shiftRight? scaled
    exact ⟨by omega, follows⟩
  · exact ⟨by omega, follows_of_shiftLeft? scaled⟩

/-- An amount other than zero that is read from a literal is backed by it. -/
theorem backs_of_ofText?
    {token : String}
    {unsigned point exponent : List Char}
    {parts : LiteralParts}
    {amount : Decimal}
    (split : splitSign token.toList = (parts.negative, unsigned))
    (shape : parts.Shape unsigned point exponent)
    (read : ofText? token = some amount)
    (notZero : amount.mantissa ≠ 0) :
    parts.Backs amount := by
  rw [ofText?_of_shape split shape] at read
  obtain ⟨base, baseRead, scaled⟩ := Option.bind_eq_some_iff.mp read
  obtain ⟨smallShift, follows⟩ := follows_of_scale? scaled
  rcases LiteralParts.readBase?_cases shape with ⟨_, onlyBase, sameSign, approximated⟩ |
      ⟨notRead, -⟩
  · obtain rfl := Option.some.inj (baseRead.symm.trans onlyBase)
    have someMantissa : base.mantissa ≠ 0 := fun noMantissa =>
      notZero (follows.staysZero noMantissa)
    exact {
      visible := LiteralParts.isVisible_of_approximates approximated someMantissa
      smallShift := smallShift
      sameSign := fun below => sameSign (follows.sameSign below) }
  · cases notRead.symm.trans baseRead

end Decimal

end IntentPolicy
