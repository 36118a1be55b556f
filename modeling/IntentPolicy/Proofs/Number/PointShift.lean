import IntentPolicy.Proofs.Number.NearestReading
import IntentPolicy.Proofs.Number.ScientificReading

namespace IntentPolicy

/-!
# Moving the point

A base that has been read is multiplied by a power of ten.  Where both the number that the base
stands for and the product are decimals, the base has been read exactly and nothing is lost;
where the product is a decimal and the base none, what has been lost is not found again.
-/

theorem roundHalfEven_of_dvd
    {numerator denominator : Nat}
    (positive : 0 < denominator)
    (divides : denominator ∣ numerator) :
    roundHalfEven numerator denominator = numerator / denominator := by
  have noRest : numerator % denominator = 0 := Nat.mod_eq_zero_of_dvd divides
  simp [roundHalfEven, noRest, positive]

theorem roundHalfUp_of_dvd
    {numerator denominator : Nat}
    (positive : 0 < denominator)
    (divides : denominator ∣ numerator) :
    roundHalfUp numerator denominator = numerator / denominator := by
  obtain ⟨quotient, rfl⟩ := divides
  rw [roundHalfUp, Nat.mul_div_cancel_left _ positive]
  apply Nat.div_eq_of_lt_le
  · nlinarith
  · nlinarith

/-- Dropping zeros at the end of a fraction keeps the number. -/
theorem dropFractionZeros_value
    (mantissa scale : Nat) :
    ((dropFractionZeros mantissa scale).1 : Rat) / 10 ^ (dropFractionZeros mantissa scale).2 =
      mantissa / 10 ^ scale := by
  induction scale generalizing mantissa with
  | zero => rfl
  | succ scale inductionHypothesis =>
      rw [dropFractionZeros]
      split
      · next lastZero =>
          obtain ⟨quotient, rfl⟩ := Nat.dvd_of_mod_eq_zero lastZero
          rw [inductionHypothesis, Nat.mul_div_cancel_left _ (by decide), pow_succ]
          push_cast
          field_simp
      · rfl

namespace Magnitude

variable {magnitude exact : Magnitude} {number : Rat}

/-- With as many places as it has, a magnitude is an integer. -/
theorem value_mul_tenTo
    (magnitude : Magnitude)
    {places : Nat}
    (enough : magnitude.scale ≤ places) :
    magnitude.value * 10 ^ places =
      (magnitude.mantissa * tenTo (places - magnitude.scale) : Nat) := by
  obtain ⟨more, rfl⟩ := Nat.exists_eq_add_of_le enough
  rw [value, Nat.add_sub_cancel_left, tenTo_eq, pow_add]
  push_cast
  field_simp

/-- A number of as many places as its approximation is approximated exactly. -/
theorem Approximates.value_eq_of_integral
    {integer : Nat}
    (approximated : magnitude.Approximates number)
    (integral : number * 10 ^ magnitude.scale = integer) :
    magnitude.value = number := by
  obtain ⟨notAbove, notBelow, -⟩ := approximated
  rw [integral] at notAbove notBelow
  have noGreater : magnitude.mantissa ≤ integer := by
    have below : (magnitude.mantissa : Rat) < integer + 1 := by linarith
    exact Nat.le_of_lt_succ (by exact_mod_cast below)
  have noLess : integer ≤ magnitude.mantissa := by
    have below : (integer : Rat) < magnitude.mantissa + 1 := by linarith
    exact Nat.le_of_lt_succ (by exact_mod_cast below)
  rw [value, Nat.le_antisymm noGreater noLess, ← integral]
  field_simp

/-- A number that is a decimal is approximated exactly. -/
theorem Approximates.value_eq_of_exact
    (approximated : magnitude.Approximates number)
    (fits : exact.value = number) :
    magnitude.value = number := by
  have integral (enough : exact.scale ≤ magnitude.scale) : magnitude.value = number :=
    approximated.value_eq_of_integral (fits ▸ exact.value_mul_tenTo enough)
  rcases approximated.full with same | noPlaces | tooGreat
  · exact same.symm
  · exact integral (noPlaces ▸ exact.scale_le)
  · by_cases enough : exact.scale ≤ magnitude.scale
    · exact integral enough
    · -- With one more place the mantissa of the decimal would leave the range.
      exfalso
      have noMore : number * 10 ^ (magnitude.scale + 1) ≤ number * 10 ^ exact.scale := by
        rw [← fits]
        apply mul_le_mul_of_nonneg_left _ exact.value_nonneg
        exact pow_le_pow_right₀ (by norm_num) (Nat.lt_of_not_le enough)
      have mantissa : number * 10 ^ exact.scale = exact.mantissa := by
        rw [← fits, value]
        field_simp
      have inRange := exact.mantissa_cast_lt
      rw [decimalBound] at tooGreat
      linarith

/-- What is approximated stays below the bound of decimals. -/
theorem Approximates.mul_lt_decimalBound
    (approximated : magnitude.Approximates number)
    (notNegative : 0 ≤ number)
    {places : Nat}
    (fewPlaces : places ≤ magnitude.scale) :
    number * 10 ^ places < decimalBound := by
  have noMore : number * 10 ^ places ≤ number * 10 ^ magnitude.scale :=
    mul_le_mul_of_nonneg_left (pow_le_pow_right₀ (by norm_num) fewPlaces) notNegative
  have notBelow := approximated.notBelow
  have inRange := magnitude.mantissa_cast_lt
  rw [decimalBound]
  linarith

/-- Behind its last place an approximation has room for zeros exactly if the number has. -/
theorem Approximates.mantissa_mul_lt_iff
    (approximated : magnitude.Approximates number)
    (notNegative : 0 ≤ number)
    {places : Nat}
    (morePlaces : magnitude.scale < places)
    (fewPlaces : places ≤ 28) :
    magnitude.mantissa * tenTo (places - magnitude.scale) < 2 ^ 96 ↔
      number * 10 ^ places < decimalBound := by
  rcases approximated.full with same | noPlaces | tooGreat
  · rw [same, magnitude.value_mul_tenTo morePlaces.le, decimalBound]
    constructor
    · intro fits
      have belowRat : ((magnitude.mantissa * tenTo (places - magnitude.scale) : Nat) : Rat) + 1 ≤
          2 ^ 96 := by
        exact_mod_cast Nat.succ_le_of_lt fits
      linarith
    · intro below
      have belowRat : ((magnitude.mantissa * tenTo (places - magnitude.scale) : Nat) : Rat) <
          2 ^ 96 := by
        linarith
      exact_mod_cast belowRat
  · omega
  · have numberTooGreat : decimalBound ≤ number * 10 ^ places := by
      refine tooGreat.trans (mul_le_mul_of_nonneg_left ?_ notNegative)
      exact pow_le_pow_right₀ (by norm_num) morePlaces
    -- No multiple of ten lies between the bound less five and the range.
    have mantissaTooGreat : 2 ^ 96 ≤ magnitude.mantissa * 10 := by
      have notBelow := approximated.notBelow
      rw [pow_succ, ← mul_assoc, decimalBound] at tooGreat
      have nearRat : (2 : Rat) ^ 96 < magnitude.mantissa * 10 + 6 := by linarith
      have near : 2 ^ 96 < magnitude.mantissa * 10 + 6 := by exact_mod_cast nearRat
      omega
    constructor
    · intro fits
      have onePlace : 10 ≤ tenTo (places - magnitude.scale) :=
        tenTo_le_tenTo (Nat.sub_pos_of_lt morePlaces)
      have noLess := Nat.mul_le_mul_left magnitude.mantissa onePlace
      omega
    · intro below
      exact absurd numberTooGreat (not_le.mpr below)

end Magnitude

/-- A number that is a decimal and not below zero is one without a sign. -/
theorem IsDecimalValue.exists_magnitude
    {number : Rat}
    (fits : IsDecimalValue number)
    (notNegative : 0 ≤ number) :
    ∃ exact : Magnitude, exact.value = number := by
  obtain ⟨amount, rfl⟩ := fits
  have magnitudeNonneg := amount.toMagnitude.value_nonneg
  refine ⟨amount.toMagnitude, ?_⟩
  rw [Decimal.value_eq, signFactor] at notNegative ⊢
  split at notNegative
  · next below =>
      rw [if_pos below]
      linarith
  · next unsigned => rw [if_neg unsigned, one_mul]

/-- A number that is a decimal rounds to one. -/
theorem IsDecimalValue.lt_decimalBound
    {number : Rat}
    (fits : IsDecimalValue number)
    (notNegative : 0 ≤ number) :
    number < decimalBound := by
  obtain ⟨exact, rfl⟩ := fits.exists_magnitude notNegative
  simpa using exact.approximates_self.mul_lt_decimalBound notNegative (Nat.zero_le _)

theorem isDecimalValue_magnitude
    (magnitude : Magnitude) :
    IsDecimalValue magnitude.value :=
  ⟨⟨magnitude, false⟩, by simp [Decimal.value_eq, signFactor]⟩

namespace Decimal

variable {base amount : Decimal} {number : Rat} {places : Nat}

theorem value_of_ofParts?
    {negative : Bool}
    {mantissa scale : Nat}
    (made : ofParts? negative mantissa scale = some amount) :
    amount.toMagnitude.value = mantissa / 10 ^ scale := by
  obtain ⟨magnitude, parts, rfl⟩ := Option.map_eq_some_iff.mp made
  obtain ⟨mantissaEq, scaleEq⟩ := Magnitude.ofParts?_eq_some_iff.mp parts
  change magnitude.value = _
  rw [Magnitude.value, mantissaEq, scaleEq]

theorem exists_of_parts
    (negative : Bool)
    {mantissa scale : Nat}
    (mantissa_lt : mantissa < twoTo 96)
    (scale_le : scale ≤ 28) :
    ∃ amount, ofParts? negative mantissa scale = some amount := by
  obtain ⟨magnitude, made, -⟩ := Magnitude.exists_ofParts? mantissa_lt scale_le
  exact ⟨signed negative magnitude, by rw [ofParts?, made, Option.map_some]⟩

theorem normalize_value
    (amount : Decimal) :
    amount.normalize.toMagnitude.value = amount.toMagnitude.value :=
  dropFractionZeros_value amount.mantissa amount.scale

/-- Digits that a product with a power of ten can drop are zeros. -/
theorem roundHalfEven_mul_tenTo
    (mantissa : Nat)
    {places dropped : Nat}
    (zeros : dropped ≤ places) :
    roundHalfEven (mantissa * tenTo places) (tenTo dropped) =
      mantissa * tenTo (places - dropped) := by
  obtain ⟨more, rfl⟩ := Nat.exists_eq_add_of_le zeros
  have split : mantissa * tenTo (dropped + more) = tenTo dropped * (mantissa * tenTo more) := by
    rw [tenTo_add]
    ring
  rw [split, roundHalfEven_of_dvd (tenTo_pos dropped) (Nat.dvd_mul_right _ _),
    Nat.mul_div_cancel_left _ (tenTo_pos dropped), Nat.add_sub_cancel_left]

/-- The product with a power of ten that has more zeros than the base has places is exact, and
there is one if what is left without a fraction fits. -/
theorem mul?_tenTo
    (power : Decimal)
    (isPower : power.mantissa = tenTo places)
    (noFraction : power.scale = 0)
    (enough : base.scale ≤ places) :
    (∃ product, base.mul? power = some product ∧
      product.toMagnitude.value = base.toMagnitude.value * 10 ^ places ∧
      base.mantissa * tenTo (places - base.scale) < 2 ^ 96) ∨
    (base.mul? power = none ∧ 2 ^ 96 ≤ base.mantissa * tenTo (places - base.scale)) := by
  rw [mul?, isPower, noFraction, Nat.add_zero]
  by_cases isZero : base.mantissa * tenTo places = 0
  · have noMantissa : base.mantissa = 0 :=
      (Nat.mul_eq_zero.mp isZero).resolve_right (tenTo_pos places).ne'
    refine Or.inl ⟨zero, if_pos isZero, ?_, ?_⟩
    · simp [zero, signed, Magnitude.zero, Magnitude.value, noMantissa]
    · rw [noMantissa, Nat.zero_mul]
      decide
  · rw [if_neg isZero]
    have fewPlaces := base.scale_le
    cases found : excessDigits? (base.mantissa * tenTo places) base.scale with
    | none =>
        refine Or.inr ⟨rfl, ?_⟩
        have tooGreat := List.find?_eq_none.mp found base.scale
          (List.mem_range'.mpr ⟨base.scale, by omega, by omega⟩)
        rw [roundHalfEven_mul_tenTo _ enough, decide_eq_true_eq] at tooGreat
        exact Nat.le_of_not_lt tooGreat
    | some dropped =>
        have fits := List.find?_some found
        have member := List.mem_of_find?_eq_some found
        obtain ⟨offset, inRange, droppedEq⟩ := List.mem_range'.mp member
        have droppedFew : dropped ≤ base.scale := by omega
        rw [roundHalfEven_mul_tenTo _ (droppedFew.trans enough), decide_eq_true_eq] at fits
        obtain ⟨product, made⟩ := exists_of_parts (base.negative != power.negative) fits
          (by omega : base.scale - dropped ≤ 28)
        refine Or.inl ⟨product, ?_, ?_, ?_⟩
        · rw [Option.bind_some, roundHalfEven_mul_tenTo _ (droppedFew.trans enough), made]
        · obtain ⟨kept, scaleEq⟩ := Nat.exists_eq_add_of_le droppedFew
          obtain ⟨more, placesEq⟩ := Nat.exists_eq_add_of_le (droppedFew.trans enough)
          rw [value_of_ofParts? made, Magnitude.value, scaleEq, placesEq, Nat.add_sub_cancel_left,
            Nat.add_sub_cancel_left, tenTo_eq, pow_add, pow_add]
          push_cast
          field_simp
        · refine Nat.lt_of_le_of_lt (Nat.mul_le_mul_left _ (tenTo_le_tenTo ?_)) fits
          omega

/-- Multiplying by a power of ten keeps what has been read, and ends in nothing only if the power
or the product is too great. -/
theorem shiftLeft?_cases
    (approximated : base.toMagnitude.Approximates number)
    (notNegative : 0 ≤ number)
    (places : Nat) :
    (∃ amount, base.shiftLeft? places = some amount ∧ places ≤ 28 ∧
      number * 10 ^ places < decimalBound ∧
      amount.toMagnitude.value = base.toMagnitude.value * 10 ^ places) ∨
    (base.shiftLeft? places = none ∧ (28 < places ∨ decimalBound ≤ number * 10 ^ places)) := by
  have fewPlaces := base.scale_le
  by_cases within : places ≤ base.scale
  · obtain ⟨amount, made⟩ := exists_of_parts base.negative base.mantissa_lt
      ((Nat.sub_le _ _).trans fewPlaces : base.scale - places ≤ 28)
    refine Or.inl ⟨amount, by rw [shiftLeft?, if_pos within, made], within.trans fewPlaces,
      approximated.mul_lt_decimalBound notNegative within, ?_⟩
    obtain ⟨kept, scaleEq⟩ := Nat.exists_eq_add_of_le within
    rw [value_of_ofParts? made, Magnitude.value, scaleEq, Nat.add_sub_cancel_left, pow_add]
    field_simp
  · by_cases tooFar : 28 < places
    · exact Or.inr ⟨by rw [shiftLeft?, if_neg within, if_pos tooFar], Or.inl tooFar⟩
    · have beyond : base.scale < places := Nat.lt_of_not_le within
      have inRange : places ≤ 28 := Nat.le_of_not_lt tooFar
      have powerInRange : tenTo places < twoTo 96 :=
        Nat.lt_of_le_of_lt (tenTo_le_tenTo inRange) (by decide)
      obtain ⟨power, powerMade⟩ := exists_of_parts false powerInRange (Nat.zero_le 28)
      obtain ⟨magnitude, parts, rfl⟩ := Option.map_eq_some_iff.mp powerMade
      obtain ⟨isPower, noFraction⟩ := Magnitude.ofParts?_eq_some_iff.mp parts
      have shifted : base.shiftLeft? places =
          (base.mul? (signed false magnitude)).map normalize := by
        rw [shiftLeft?, if_neg within, if_neg tooFar, powerMade, Option.bind_some]
      have fits_iff := approximated.mantissa_mul_lt_iff notNegative beyond inRange
      rw [shifted]
      rcases mul?_tenTo (signed false magnitude) isPower noFraction beyond.le with
          ⟨product, multiplied, productValue, fits⟩ | ⟨overflow, tooGreat⟩
      · exact Or.inl ⟨product.normalize, by rw [multiplied, Option.map_some], inRange,
          fits_iff.mp fits, product.normalize_value.trans productValue⟩
      · refine Or.inr ⟨by rw [overflow, Option.map_none], Or.inr ?_⟩
        exact not_lt.mp fun below => absurd (fits_iff.mpr below) (Nat.not_lt.mpr tooGreat)

/-- A magnitude that gives up places still fits. -/
theorem exists_cutTo?
    {magnitude : Magnitude}
    {scale : Nat}
    (fewer : scale < magnitude.scale) :
    ∃ cut, magnitude.cutTo? scale = some cut ∧
      cut.mantissa = roundHalfUp magnitude.mantissa (tenTo (magnitude.scale - scale)) := by
  have few := magnitude.scale_le
  have onePlace : 10 ≤ tenTo (magnitude.scale - scale) := tenTo_le_tenTo (Nat.sub_pos_of_lt fewer)
  have inRange : magnitude.mantissa < twoTo 96 := magnitude.mantissa_lt
  have room : roundHalfUp magnitude.mantissa (tenTo (magnitude.scale - scale)) < twoTo 96 := by
    rw [roundHalfUp, Nat.div_lt_iff_lt_mul (by omega)]
    have someRoom : 10 ≤ twoTo 96 := by decide
    nlinarith
  obtain ⟨cut, made, mantissa, -⟩ :=
    Magnitude.exists_ofParts? room (by omega : scale ≤ 28)
  exact ⟨cut, by rw [Magnitude.cutTo?, made], mantissa⟩

/-- Dividing by a power of ten ends in nothing only if the power is too great.  It keeps what has
been read, and a quotient that is a decimal has been read exactly. -/
theorem shiftRight?_cases
    (approximated : base.toMagnitude.Approximates number)
    (places : Nat) :
    (∃ amount, base.shiftRight? true places = some amount ∧ places ≤ 28 ∧
      (amount.toMagnitude.value = base.toMagnitude.value / 10 ^ places ∨
        ∀ exact : Magnitude, exact.value = number / 10 ^ places →
          base.toMagnitude.value = number ∧ amount.toMagnitude.value = exact.value)) ∨
    (base.shiftRight? true places = none ∧ 28 < places) := by
  by_cases tooFar : 28 < places
  · exact Or.inr ⟨by rw [shiftRight?, if_pos tooFar], tooFar⟩
  have inRange : places ≤ 28 := Nat.le_of_not_lt tooFar
  left
  by_cases placesLeft : base.scale + places ≤ 28
  · obtain ⟨amount, made⟩ := exists_of_parts base.negative base.mantissa_lt placesLeft
    refine ⟨amount, by rw [shiftRight?, if_neg tooFar, if_pos placesLeft, made], inRange,
      Or.inl ?_⟩
    rw [value_of_ofParts? made, Magnitude.value, pow_add]
    field_simp
  · have fewer : 28 - places < base.scale := by omega
    obtain ⟨cut, cutMade, cutMantissa⟩ := exists_cutTo? fewer
    obtain ⟨moved, movedMade, movedMantissa, movedScale⟩ :=
      Magnitude.exists_ofParts? cut.mantissa_lt (Nat.le_refl 28)
    refine ⟨⟨moved, base.negative⟩, ?_, inRange, Or.inr ?_⟩
    · rw [shiftRight?, if_neg tooFar, if_neg placesLeft, if_pos rfl, cutMade, Option.bind_some,
        movedMade, Option.map_some]
    · intro exact fits
      let kept := exact.mantissa * tenTo (28 - exact.scale)
      have keptEq : exact.value * 10 ^ 28 = (kept : Nat) := exact.value_mul_tenTo exact.scale_le
      obtain ⟨lost, scaleEq⟩ := Nat.exists_eq_add_of_le fewer.le
      have integral : number * 10 ^ base.scale = (kept * tenTo lost : Nat) := by
        have allPlaces : (10 : Rat) ^ 28 = 10 ^ (28 - places) * 10 ^ places := by
          rw [← pow_add, Nat.sub_add_cancel inRange]
        rw [fits, allPlaces] at keptEq
        rw [scaleEq, pow_add, Nat.cast_mul, ← keptEq, tenTo_eq]
        push_cast
        field_simp
      have readExactly := approximated.value_eq_of_integral integral
      have mantissaEq : base.mantissa = kept * tenTo lost := by
        rw [← readExactly, Magnitude.value] at integral
        field_simp at integral
        exact_mod_cast integral
      refine ⟨readExactly, ?_⟩
      have cutExactly : cut.mantissa = kept := by
        rw [cutMantissa, scaleEq, Nat.add_sub_cancel_left, mantissaEq,
          roundHalfUp_of_dvd (tenTo_pos lost) (Nat.dvd_mul_left _ _),
          Nat.mul_div_cancel _ (tenTo_pos lost)]
      change moved.value = exact.value
      rw [Magnitude.value, movedMantissa, movedScale, cutExactly, ← keptEq]
      field_simp

/-- A base under an exponent ends in nothing only if the exponent or the number is too great, and
comes to a number that is a decimal exactly if the base is one. -/
theorem scale?_cases
    (approximated : base.toMagnitude.Approximates number)
    (notNegative : 0 ≤ number)
    (exponent : Int) :
    (∃ amount, base.scale? true exponent = some amount ∧ (-28 ≤ exponent ∧ exponent ≤ 28) ∧
      number * 10 ^ exponent < decimalBound ∧
      (IsDecimalValue (number * 10 ^ exponent) →
        (amount.toMagnitude.value = number * 10 ^ exponent ↔ IsDecimalValue number))) ∨
    (base.scale? true exponent = none ∧
      ¬ ((-28 ≤ exponent ∧ exponent ≤ 28) ∧ number * 10 ^ exponent < decimalBound)) := by
  have readExactly : base.toMagnitude.value = number ↔ IsDecimalValue number := by
    constructor
    · intro same
      exact same ▸ isDecimalValue_magnitude base.toMagnitude
    · intro fits
      obtain ⟨exact, sameValue⟩ := fits.exists_magnitude notNegative
      exact approximated.value_eq_of_exact sameValue
  have power : (10 : Rat) ^ exponent ≠ 0 := by positivity
  have keeps {amount : Decimal}
      (scaled : amount.toMagnitude.value = base.toMagnitude.value * 10 ^ exponent) :
      amount.toMagnitude.value = number * 10 ^ exponent ↔ IsDecimalValue number := by
    rw [scaled, mul_left_inj' power, readExactly]
  by_cases below : exponent < 0
  · obtain ⟨places, rfl⟩ : ∃ places : Nat, exponent = -(places : Int) :=
      ⟨exponent.natAbs, by omega⟩
    have scale?_eq : base.scale? true (-(places : Int)) = base.shiftRight? true places := by
      rw [scale?, if_pos below, Int.neg_neg, Int.toNat_natCast]
    have quotient (dividend : Rat) :
        dividend * 10 ^ (-(places : Int)) = dividend / 10 ^ places := by
      rw [zpow_neg, zpow_natCast, div_eq_mul_inv]
    have small : number * 10 ^ (-(places : Int)) < decimalBound := by
      rw [quotient]
      refine (div_le_self notNegative (one_le_pow₀ (by norm_num))).trans_lt ?_
      simpa using approximated.mul_lt_decimalBound notNegative (Nat.zero_le _)
    rw [scale?_eq]
    rcases shiftRight?_cases approximated places with ⟨amount, shifted, inRange, kept⟩ |
        ⟨noAmount, tooFar⟩
    · refine Or.inl ⟨amount, shifted, by omega, small, fun fits => ?_⟩
      rcases kept with scaled | cut
      · exact keeps (scaled.trans (quotient _).symm)
      · have nonneg : 0 ≤ number * 10 ^ (-(places : Int)) := by positivity
        obtain ⟨exact, sameValue⟩ := fits.exists_magnitude nonneg
        obtain ⟨baseExact, amountExact⟩ := cut exact (sameValue.trans (quotient number))
        exact iff_of_true (amountExact.trans sameValue) (readExactly.mp baseExact)
    · exact Or.inr ⟨noAmount, by omega⟩
  · obtain ⟨places, rfl⟩ := Int.eq_ofNat_of_zero_le (Int.not_lt.mp below)
    have scale?_eq : base.scale? true (places : Int) = base.shiftLeft? places := by
      rw [scale?, if_neg below, Int.toNat_natCast]
    rw [scale?_eq, zpow_natCast]
    rcases shiftLeft?_cases approximated notNegative places with
        ⟨amount, shifted, inRange, small, scaled⟩ | ⟨noAmount, tooGreat⟩
    · refine Or.inl ⟨amount, shifted, by omega, small, fun _ => ?_⟩
      rw [← zpow_natCast] at scaled ⊢
      exact keeps scaled
    · refine Or.inr ⟨noAmount, ?_⟩
      rintro ⟨inRange, small⟩
      rcases tooGreat with tooFar | beyond
      · omega
      · exact absurd small (not_lt.mpr beyond)

end Decimal

end IntentPolicy
