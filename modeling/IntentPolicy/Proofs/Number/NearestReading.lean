import IntentPolicy.Proofs.Number.DecimalReading
import IntentPolicy.Proofs.Number.DigitOrder
import IntentPolicy.Proofs.Number.ExactValue

namespace IntentPolicy

/-!
# Digits are read as the nearest decimal

Digits with a point among them are read unless their number rounds out of the range of
decimals.  What is read is the multiple of its own last place that is nearest, a half going up,
and either it is the number itself or it has no room for another place.
-/

/-- The least number that is rounded to an integer of more than 96 bits. -/
def decimalBound : Rat := 2 ^ 96 - 1 / 2

/-- A number that some decimal denotes. -/
def IsDecimalValue (number : Rat) : Prop :=
  ∃ amount : Decimal, amount.value = number

namespace Magnitude

/-- A magnitude is what becomes of a number that is rounded to as many places as there is room
for. -/
structure Approximates (magnitude : Magnitude) (number : Rat) : Prop where
  notAbove : (magnitude.mantissa : Rat) - 1 / 2 ≤ number * 10 ^ magnitude.scale
  notBelow : number * 10 ^ magnitude.scale < magnitude.mantissa + 1 / 2
  full : number = magnitude.value ∨ magnitude.scale = 28 ∨
    decimalBound ≤ number * 10 ^ (magnitude.scale + 1)

/-- What reading makes of a number: an approximation, or an error if the number is too great. -/
def Reads (number : Rat) : Except DecimalError Magnitude → Prop
  | .ok magnitude => magnitude.Approximates number
  | .error _ => decimalBound ≤ number

/-- The number of a magnitude with more digits behind its last place. -/
def followedBy (magnitude : Magnitude) (digits : List Char) : Rat :=
  (magnitude.mantissa + digitsValue digits / 10 ^ digits.length) / 10 ^ magnitude.scale

variable {magnitude longer : Magnitude} {digit : Char} {digits rest whole fraction : List Char}

theorem mantissa_cast_lt
    (magnitude : Magnitude) :
    (magnitude.mantissa : Rat) + 1 ≤ 2 ^ 96 := by
  have inRange : magnitude.mantissa + 1 ≤ 2 ^ 96 := magnitude.mantissa_lt
  exact_mod_cast inRange

theorem approximates_self
    (magnitude : Magnitude) :
    magnitude.Approximates magnitude.value := by
  have units : magnitude.value * 10 ^ magnitude.scale = magnitude.mantissa := by
    rw [value]
    field_simp
  refine ⟨?_, ?_, Or.inl rfl⟩
  · rw [units]
    linarith
  · rw [units]
    linarith

theorem followedBy_nil
    (magnitude : Magnitude) :
    magnitude.followedBy [] = magnitude.value := by
  simp [followedBy, value, digitsValue]

/-- A digit that is pushed behind the last place has been the first of those behind it. -/
theorem followedBy_pushed
    (mantissa_eq : longer.mantissa = 10 * magnitude.mantissa + digitValue digit)
    (scale_eq : longer.scale = magnitude.scale + 1) :
    longer.followedBy rest = magnitude.followedBy (digit :: rest) := by
  rw [followedBy, followedBy, mantissa_eq, scale_eq, digitsValue_cons, List.length_cons, tenTo_eq,
    pow_succ, pow_succ]
  push_cast
  field_simp
  ring

/-- Digits behind a point make up less than one. -/
theorem digitsValue_div_lt_one
    (areDigits : ∀ character ∈ digits, character.isDigit = true) :
    (digitsValue digits : Rat) / 10 ^ digits.length < 1 := by
  have small : (digitsValue digits : Rat) < 10 ^ digits.length := by
    exact_mod_cast digitsValue_lt areDigits
  exact (div_lt_one (by positivity)).mpr small

/-- The first digit behind the last place makes up tenths of it, and the others less than one. -/
theorem followedBy_cons
    (magnitude : Magnitude)
    (digit : Char)
    (areDigits : ∀ character ∈ rest, character.isDigit = true) :
    ∃ tail : Rat, 0 ≤ tail ∧ tail < 1 ∧
      magnitude.followedBy (digit :: rest) * 10 ^ magnitude.scale =
        magnitude.mantissa + (digitValue digit + tail) / 10 := by
  refine ⟨digitsValue rest / 10 ^ rest.length, by positivity, digitsValue_div_lt_one areDigits, ?_⟩
  rw [followedBy, digitsValue_cons, List.length_cons, tenTo_eq, pow_succ]
  push_cast
  field_simp

/-- Digits only are rounded by the first of them. -/
theorem roundBy_eq_of_digits
    (areDigits : ∀ character ∈ digit :: rest, character.isDigit = true) :
    magnitude.roundBy digit rest =
      if 5 ≤ digitValue digit then
        match magnitude.roundUp? with
        | some raised => .ok raised
        | none => .error .roundingOverflow
      else .ok magnitude := by
  have noStranger :
      (digit :: rest).find? (fun candidate =>
        !(candidate.isDigit || candidate == '_' || candidate == '.')) = none := by
    rw [List.find?_eq_none]
    intro candidate member
    simp [areDigits candidate member]
  have isDigit := areDigits digit List.mem_cons_self
  rewrite [roundBy, noStranger, isDigit, Bool.true_and]
  exact if_congr decide_eq_true_iff rfl rfl

/-- The mantissa that rounding up leaves of one that would leave the range. -/
def loweredMantissa : Nat := (2 ^ 96 + 4) / 10

/-- Raising the last place leaves the range only behind the greatest mantissa, which gives up
its last place if it has one. -/
theorem roundUp?_cases
    (magnitude : Magnitude) :
    (∃ raised, magnitude.roundUp? = some raised ∧ raised.mantissa = magnitude.mantissa + 1 ∧
        raised.scale = magnitude.scale) ∨
      (magnitude.mantissa + 1 = 2 ^ 96 ∧ magnitude.scale = 0 ∧ magnitude.roundUp? = none) ∨
      (magnitude.mantissa + 1 = 2 ^ 96 ∧ ∃ lowered, magnitude.roundUp? = some lowered ∧
        lowered.mantissa = loweredMantissa ∧ lowered.scale + 1 = magnitude.scale) := by
  by_cases room : magnitude.mantissa + 1 < twoTo 96
  · obtain ⟨raised, made, mantissa, scale⟩ := exists_ofParts? room magnitude.scale_le
    exact Or.inl ⟨raised, by rw [roundUp?, made], mantissa, scale⟩
  · have noRoom : ofParts? (magnitude.mantissa + 1) magnitude.scale = none := by
      rw [ofParts?, dif_neg fun inRange => room inRange.1]
    have greatest : magnitude.mantissa + 1 = 2 ^ 96 := by
      have inRange : magnitude.mantissa < 2 ^ 96 := magnitude.mantissa_lt
      have noLess : 2 ^ 96 ≤ magnitude.mantissa + 1 := Nat.le_of_not_lt room
      omega
    by_cases noPlaces : magnitude.scale = 0
    · exact Or.inr (Or.inl ⟨greatest, noPlaces, by rw [roundUp?, noRoom]; simp [noPlaces]⟩)
    · have mantissaEq : (magnitude.mantissa + 5) / 10 = loweredMantissa := by
        rw [loweredMantissa, ← greatest]
      have fewPlaces : magnitude.scale - 1 ≤ 28 :=
        (Nat.sub_le _ _).trans magnitude.scale_le
      obtain ⟨lowered, made, mantissa, scale⟩ :=
        exists_ofParts? (by decide : loweredMantissa < twoTo 96) fewPlaces
      refine Or.inr (Or.inr ⟨greatest, lowered, ?_, mantissa, by omega⟩)
      simp only [roundUp?, noRoom, if_neg noPlaces, mantissaEq, made]

/-- Rounding by the first digit that finds no room gives the nearest decimal. -/
theorem reads_roundBy
    (areDigits : ∀ character ∈ digit :: rest, character.isDigit = true)
    (noRoom : magnitude.scale = 28 ∨ 2 ^ 96 ≤ 10 * magnitude.mantissa + digitValue digit) :
    Reads (magnitude.followedBy (digit :: rest)) (magnitude.roundBy digit rest) := by
  obtain ⟨isDigit, restDigits⟩ := List.forall_mem_cons.mp areDigits
  have digitSmall : (digitValue digit : Rat) ≤ 9 := by
    have small := (toNat_of_isDigit isDigit).2
    exact_mod_cast Nat.le_of_lt_succ small
  obtain ⟨tail, tailNonneg, tailSmall, spread⟩ := magnitude.followedBy_cons digit restDigits
  generalize magnitude.followedBy (digit :: rest) = number at spread
  have full : magnitude.scale = 28 ∨ decimalBound ≤ number * 10 ^ (magnitude.scale + 1) := by
    refine noRoom.imp_right fun overfull => ?_
    have overfullRat : (2 : Rat) ^ 96 ≤ 10 * magnitude.mantissa + digitValue digit := by
      exact_mod_cast overfull
    rw [pow_succ, ← mul_assoc, spread, decimalBound]
    linarith
  rw [roundBy_eq_of_digits areDigits]
  split
  · next high =>
      have highRat : (5 : Rat) ≤ digitValue digit := by exact_mod_cast high
      rcases magnitude.roundUp?_cases with ⟨raised, up, mantissaUp, sameScale⟩ |
          ⟨greatest, noPlaces, overflow⟩ | ⟨greatest, lowered, down, mantissaDown, onePlaceLess⟩
      · rw [up]
        have mantissaRat : (raised.mantissa : Rat) = magnitude.mantissa + 1 := by
          exact_mod_cast mantissaUp
        refine ⟨?_, ?_, Or.inr (sameScale ▸ full)⟩
        · rw [sameScale, spread, mantissaRat]
          linarith
        · rw [sameScale, spread, mantissaRat]
          linarith
      · rw [overflow]
        have greatestRat : (magnitude.mantissa : Rat) + 1 = 2 ^ 96 := by exact_mod_cast greatest
        rw [noPlaces, pow_zero, mul_one] at spread
        change decimalBound ≤ number
        rw [spread, decimalBound]
        linarith
      · rw [down]
        have greatestRat : (magnitude.mantissa : Rat) + 1 = 2 ^ 96 := by exact_mod_cast greatest
        rw [← onePlaceLess, pow_succ, ← mul_assoc] at spread
        have mantissaRat : (lowered.mantissa : Rat) = (2 ^ 96 + 4) / 10 := by
          rw [mantissaDown, loweredMantissa]
          norm_num
        -- One place up, the number is a tenth of the bound, and still rounds up.
        refine ⟨?_, ?_, Or.inr (Or.inr ?_)⟩
        · rw [mantissaRat]
          linarith
        · rw [mantissaRat]
          linarith
        · rw [pow_succ, ← mul_assoc, spread, decimalBound]
          linarith
  · next low =>
      have lowRat : (digitValue digit : Rat) + 1 ≤ 5 := by exact_mod_cast Nat.lt_of_not_le low
      refine ⟨?_, ?_, Or.inr full⟩
      · rw [spread]
        linarith
      · rw [spread]
        linarith

/-- A fraction is read as the nearest decimal. -/
theorem reads_readFraction
    (areDigits : ∀ character ∈ digits, character.isDigit = true)
    {digitSeen : Bool}
    (someDigit : digitSeen = true ∨ digits ≠ []) :
    Reads (magnitude.followedBy digits) (magnitude.readFraction digitSeen digits) := by
  -- What has been pushed is exact; the first digit without room decides all the others.
  induction digits generalizing magnitude digitSeen with
  | nil =>
      have seen : digitSeen = true := someDigit.resolve_right fun noDigit => noDigit rfl
      rw [readFraction_nil, seen, if_pos rfl, followedBy_nil]
      exact magnitude.approximates_self
  | cons digit digits inductionHypothesis =>
      obtain ⟨isDigit, digitsBehind⟩ := List.forall_mem_cons.mp areDigits
      rw [readFraction_cons]
      by_cases noPlaces : magnitude.scale = 28
      · rw [if_pos noPlaces]
        exact reads_roundBy areDigits (Or.inl noPlaces)
      · rw [if_neg noPlaces, if_pos isDigit]
        have placesLeft : magnitude.scale + 1 ≤ 28 := by
          have few := magnitude.scale_le
          omega
        by_cases room : 10 * magnitude.mantissa + digitValue digit < twoTo 96
        · obtain ⟨longer, pushed, mantissa, scale⟩ := exists_ofParts? room placesLeft
          rw [pushFraction?, pushed, ← followedBy_pushed mantissa scale]
          exact inductionHypothesis digitsBehind (Or.inl rfl)
        · have notPushed : magnitude.pushFraction? (digitValue digit) = none := by
            rw [pushFraction?, ofParts?, dif_neg fun inRange => room inRange.1]
          rw [notPushed]
          exact reads_roundBy areDigits (Or.inr (Nat.le_of_not_lt room))

/-- Digits and a point are read as the nearest decimal. -/
theorem reads_readWhole
    {point : List Char}
    (wholeDigits : ∀ character ∈ whole, character.isDigit = true)
    (fractionDigits : ∀ character ∈ fraction, character.isDigit = true)
    (fractionText : LiteralParts.FractionText fraction point)
    (noPlaces : magnitude.scale = 0)
    {digitSeen : Bool}
    (someDigit : digitSeen = true ∨ whole ≠ [] ∨ fraction ≠ []) :
    Reads
      (10 ^ whole.length * magnitude.mantissa + digitsValue whole +
        digitsValue fraction / 10 ^ fraction.length)
      (magnitude.readWhole digitSeen (whole ++ point)) := by
  induction whole generalizing magnitude digitSeen with
  | nil =>
      have number :
          10 ^ ([] : List Char).length * (magnitude.mantissa : Rat) + (digitsValue [] : Nat) +
              digitsValue fraction / 10 ^ fraction.length =
            magnitude.followedBy fraction := by
        simp [followedBy, noPlaces, digitsValue]
      rw [number]
      cases fractionText with
      | absent =>
          have seen : digitSeen = true := by simpa using someDigit
          rw [List.append_nil, readWhole_nil, seen, if_pos rfl, followedBy_nil]
          exact magnitude.approximates_self
      | present =>
          rw [List.nil_append, readWhole_cons, if_neg (by decide), if_pos rfl]
          exact reads_readFraction fractionDigits (by simpa using someDigit)
  | cons digit whole inductionHypothesis =>
      obtain ⟨isDigit, digitsBehind⟩ := List.forall_mem_cons.mp wholeDigits
      rw [List.cons_append, readWhole_cons, if_pos isDigit]
      have pushed_eq :
          (10 : Rat) ^ (digit :: whole).length * magnitude.mantissa +
              (digitsValue (digit :: whole) : Nat) =
            10 ^ whole.length * (10 * magnitude.mantissa + digitValue digit : Nat) +
              digitsValue whole := by
        have natural := pushed_eq magnitude.mantissa digit whole
        simp only [tenTo_eq] at natural
        exact_mod_cast natural
      rw [pushed_eq]
      by_cases room : 10 * magnitude.mantissa + digitValue digit < twoTo 96
      · obtain ⟨longer, pushed, mantissa, scale⟩ := exists_ofParts? room magnitude.scale_le
        rw [pushWhole?, pushed, ← mantissa]
        exact inductionHypothesis digitsBehind (scale.trans noPlaces) (Or.inl rfl)
      · have notPushed : magnitude.pushWhole? (digitValue digit) = none := by
          rw [pushWhole?, ofParts?, dif_neg fun inRange => room inRange.1]
        rw [notPushed]
        have overfull : (2 : Rat) ^ 96 ≤ (10 * magnitude.mantissa + digitValue digit : Nat) := by
          exact_mod_cast Nat.le_of_not_lt room
        have onePlace : (1 : Rat) ≤ 10 ^ whole.length := one_le_pow₀ (by norm_num)
        have tail :
            (0 : Rat) ≤ digitsValue whole + digitsValue fraction / 10 ^ fraction.length := by
          positivity
        change decimalBound ≤ _
        rw [decimalBound]
        nlinarith

end Magnitude

end IntentPolicy
