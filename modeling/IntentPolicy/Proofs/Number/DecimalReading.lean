import IntentPolicy.Number.DecimalReading
import IntentPolicy.Proofs.Number.LiteralShape
import IntentPolicy.Proofs.Number.PositionalText

namespace IntentPolicy

/-!
# Reading decimals back

A decimal without a sign is read back from its text, scale included.  In the other
direction, what a text with an amount above zero can be read from is bounded from below:
the digits that a decimal has room for are not all zeros.
-/

namespace Magnitude

theorem eq_of_parts
    {left right : Magnitude}
    (sameMantissa : left.mantissa = right.mantissa)
    (sameScale : left.scale = right.scale) :
    left = right := by
  cases left
  cases right
  cases sameMantissa
  cases sameScale
  rfl

/-- Parts in range make the magnitude of these parts. -/
theorem ofParts?_eq_some_iff
    {mantissa scale : Nat}
    {magnitude : Magnitude} :
    ofParts? mantissa scale = some magnitude ↔
      magnitude.mantissa = mantissa ∧ magnitude.scale = scale := by
  rw [ofParts?]
  constructor
  · intro made
    split at made
    · rw [← Option.some.inj made]
      exact ⟨rfl, rfl⟩
    · cases made
  · rintro ⟨rfl, rfl⟩
    rw [dif_pos ⟨magnitude.mantissa_lt, magnitude.scale_le⟩]

theorem exists_ofParts?
    {mantissa scale : Nat}
    (mantissa_lt : mantissa < twoTo 96)
    (scale_le : scale ≤ 28) :
    ∃ magnitude, ofParts? mantissa scale = some magnitude ∧
      magnitude.mantissa = mantissa ∧ magnitude.scale = scale :=
  ⟨⟨mantissa, scale, mantissa_lt, scale_le⟩, dif_pos ⟨mantissa_lt, scale_le⟩, rfl, rfl⟩

/-! Reading goes character by character; the equations hold by computation. -/

theorem readWhole_cons
    (magnitude : Magnitude)
    (digitSeen : Bool)
    (character : Char)
    (rest : List Char) :
    magnitude.readWhole digitSeen (character :: rest) =
      if character.isDigit then
        match magnitude.pushWhole? (digitValue character) with
        | some longer => longer.readWhole true rest
        | none => .error .tooManyDigits
      else if character = '.' then magnitude.readFraction digitSeen rest
      else if character = '_' && digitSeen then magnitude.readWhole digitSeen rest
      else .error (.ofCharacter character) := by
  rfl

theorem readWhole_nil
    (magnitude : Magnitude)
    (digitSeen : Bool) :
    magnitude.readWhole digitSeen [] = if digitSeen then .ok magnitude else .error .noDigits := by
  rfl

theorem readFraction_cons
    (magnitude : Magnitude)
    (digitSeen : Bool)
    (character : Char)
    (rest : List Char) :
    magnitude.readFraction digitSeen (character :: rest) =
      if magnitude.scale = 28 then magnitude.roundBy character rest
      else if character.isDigit then
        match magnitude.pushFraction? (digitValue character) with
        | some longer => longer.readFraction true rest
        | none => magnitude.roundBy character rest
      else if character = '_' && digitSeen then magnitude.readFraction digitSeen rest
      else .error (.ofCharacter character) := by
  rfl

theorem readFraction_nil
    (magnitude : Magnitude)
    (digitSeen : Bool) :
    magnitude.readFraction digitSeen [] =
      if digitSeen then .ok magnitude else .error .noDigits := by
  rfl

variable {magnitude longer : Magnitude} {digitSeen : Bool} {digits rest : List Char}

/-- A mantissa that has room for digits has room for the first of them. -/
theorem room_of_digits
    {mantissa : Nat}
    {digit : Char}
    (mantissa_eq :
      longer.mantissa =
        tenTo (digit :: digits).length * mantissa + digitsValue (digit :: digits)) :
    10 * mantissa + digitValue digit < twoTo 96 := by
  have onePlace : 1 ≤ 10 ^ digits.length := Nat.one_le_pow _ _ (by decide)
  have pushed : 10 * mantissa + digitValue digit ≤ longer.mantissa := by
    rw [mantissa_eq, digitsValue_cons, List.length_cons, tenTo_eq, tenTo_eq, Nat.pow_succ]
    nlinarith
  exact Nat.lt_of_le_of_lt pushed longer.mantissa_lt

/-- Pushing digits one by one makes of a mantissa what their value says. -/
theorem pushed_eq
    (mantissa : Nat)
    (digit : Char)
    (digits : List Char) :
    tenTo (digit :: digits).length * mantissa + digitsValue (digit :: digits) =
      tenTo digits.length * (10 * mantissa + digitValue digit) + digitsValue digits := by
  rw [digitsValue_cons, List.length_cons, tenTo_eq, tenTo_eq, Nat.pow_succ]
  ring

/-- Digits of the integer part are read as long as the mantissa has room for them. -/
theorem readWhole_append
    (areDigits : ∀ character ∈ digits, character.isDigit = true)
    (mantissa_eq :
      longer.mantissa = tenTo digits.length * magnitude.mantissa + digitsValue digits)
    (scale_eq : longer.scale = magnitude.scale) :
    magnitude.readWhole digitSeen (digits ++ rest) =
      longer.readWhole (digitSeen || !digits.isEmpty) rest := by
  induction digits generalizing magnitude digitSeen with
  | nil =>
      have same : longer = magnitude := by
        apply eq_of_parts
        · simpa [tenTo, digitsValue] using mantissa_eq
        · exact scale_eq
      rw [same]
      simp
  | cons digit digits inductionHypothesis =>
      have isDigit := areDigits digit (by simp)
      obtain ⟨next, pushed, nextMantissa, nextScale⟩ :=
        exists_ofParts? (room_of_digits mantissa_eq) magnitude.scale_le
      have behind :
          next.readWhole true (digits ++ rest) =
            longer.readWhole (true || !digits.isEmpty) rest := by
        apply inductionHypothesis
        · intro character member
          exact areDigits character (List.mem_cons_of_mem digit member)
        · rw [mantissa_eq, pushed_eq, nextMantissa]
        · rw [scale_eq, nextScale]
      rw [List.cons_append, readWhole_cons, if_pos isDigit, pushWhole?, pushed]
      simpa using behind

/-- Digits of the fraction are read as long as there is room for them. -/
theorem readFraction_eq_ok
    (areDigits : ∀ character ∈ digits, character.isDigit = true)
    (mantissa_eq :
      longer.mantissa = tenTo digits.length * magnitude.mantissa + digitsValue digits)
    (scale_eq : longer.scale = magnitude.scale + digits.length) :
    magnitude.readFraction true digits = .ok longer := by
  induction digits generalizing magnitude with
  | nil =>
      have same : magnitude = longer := by
        apply eq_of_parts
        · simpa [tenTo, digitsValue] using mantissa_eq.symm
        · exact scale_eq.symm
      rw [readFraction_nil, same, if_pos rfl]
  | cons digit digits inductionHypothesis =>
      have isDigit := areDigits digit (by simp)
      rw [List.length_cons] at scale_eq
      have placesLeft : magnitude.scale + 1 ≤ 28 := by
        have longerScale := longer.scale_le
        omega
      obtain ⟨next, pushed, nextMantissa, nextScale⟩ :=
        exists_ofParts? (room_of_digits mantissa_eq) placesLeft
      have behind : next.readFraction true digits = .ok longer := by
        apply inductionHypothesis
        · intro character member
          exact areDigits character (List.mem_cons_of_mem digit member)
        · rw [mantissa_eq, pushed_eq, nextMantissa]
        · rw [scale_eq, nextScale, Nat.add_right_comm, Nat.add_assoc]
      rw [readFraction_cons, if_neg (by omega), if_pos isDigit, pushFraction?, pushed]
      exact behind

end Magnitude

/-- A digit is neither a sign, nor a point, nor an exponent mark. -/
theorem ne_of_isDigit
    {character : Char}
    (digit : character.isDigit = true)
    (other : Char)
    (noDigit : other.isDigit = false) :
    character ≠ other := by
  rintro rfl
  rw [digit] at noDigit
  cases noDigit

namespace Decimal

/-- Without a sign in front, the integer part is read at once. -/
theorem readPlain_unsigned
    {first : Char}
    {rest : List Char}
    (noMinus : first ≠ '-')
    (noPlus : first ≠ '+') :
    readPlain (first :: rest) =
      (Magnitude.zero.readWhole false (first :: rest)).map (signed false) := by
  unfold readPlain
  split
  · next impossible => cases impossible
  · next same => exact (noMinus (List.cons.inj same).1).elim
  · next same => exact (noPlus (List.cons.inj same).1).elim
  · rfl

/-- The magnitude of a decimal without a sign is read from its text. -/
theorem readWhole_characters
    {amount : Decimal}
    (unsigned : amount.negative = false) :
    Magnitude.zero.readWhole false amount.characters = .ok amount.toMagnitude := by
  obtain ⟨whole, fraction, spelling⟩ := exists_spelling unsigned
  obtain ⟨first, others, opening⟩ := List.exists_cons_of_ne_nil spelling.whole_ne_nil
  have split :
      digitsValue (whole ++ fraction) =
        tenTo fraction.length * digitsValue whole + digitsValue fraction :=
    digitsValue_append whole fraction
  have wholeInRange : digitsValue whole < twoTo 96 := by
    refine Nat.lt_of_le_of_lt ?_ amount.mantissa_lt
    rw [← spelling.value_eq, split]
    have onePlace := tenTo_pos fraction.length
    nlinarith
  let wholePart : Magnitude := ⟨digitsValue whole, 0, wholeInRange, by decide⟩
  have wholeRead (rest : List Char) :
      Magnitude.zero.readWhole false (whole ++ rest) = wholePart.readWhole true rest := by
    have someDigit : (false || !whole.isEmpty) = true := by rw [opening]; rfl
    rw [← someDigit]
    exact Magnitude.readWhole_append spelling.wholeDigits (by simp [wholePart, Magnitude.zero]) rfl
  rw [spelling.characters_eq, wholeRead]
  by_cases noFraction : amount.scale = 0
  · have empty : fraction = [] := by
      rw [← List.length_eq_zero_iff, spelling.fraction_length, noFraction]
    have same : wholePart = amount.toMagnitude := by
      have value := spelling.value_eq
      rw [empty, List.append_nil] at value
      exact Magnitude.eq_of_parts value noFraction.symm
    rw [if_pos noFraction, same, Magnitude.readWhole_nil, if_pos rfl]
  · rw [if_neg noFraction, Magnitude.readWhole_cons, if_neg (by decide), if_pos rfl]
    apply Magnitude.readFraction_eq_ok spelling.fractionDigits
    · rw [← spelling.value_eq, split]
    · rw [spelling.fraction_length]
      exact (Nat.zero_add _).symm

/-- A decimal without a sign is read back from its text. -/
theorem readPlain_characters
    {amount : Decimal}
    (unsigned : amount.negative = false) :
    readPlain amount.characters = .ok amount := by
  obtain ⟨whole, fraction, spelling⟩ := exists_spelling unsigned
  have sameAmount : signed false amount.toMagnitude = amount := by
    rw [signed, Bool.false_and, ← unsigned]
  have openingDigit :
      ∃ first rest, amount.characters = first :: rest ∧ first.isDigit = true := by
    obtain ⟨first, others, shape⟩ := List.exists_cons_of_ne_nil spelling.whole_ne_nil
    rw [spelling.characters_eq, shape]
    exact ⟨first, _, rfl, spelling.wholeDigits first (by simp [shape])⟩
  have magnitudeRead := readWhole_characters unsigned
  obtain ⟨first, rest, characters, isDigit⟩ := openingDigit
  rw [characters] at magnitudeRead ⊢
  rw [readPlain_unsigned (ne_of_isDigit isDigit '-' rfl) (ne_of_isDigit isDigit '+' rfl),
    magnitudeRead]
  exact congrArg Except.ok sameAmount

/-- The decimal with the sign dropped from zero. -/
def unsignedZero (amount : Decimal) : Decimal :=
  signed amount.negative amount.toMagnitude

/-- Every decimal is read back from its text, but for a sign of zero. -/
theorem ofText_text
    (amount : Decimal) :
    ofText amount.text = .ok amount.unsignedZero := by
  have read : readPlain amount.characters = .ok amount.unsignedZero := by
    cases sign : amount.negative with
    | false =>
        rw [readPlain_characters sign, unsignedZero, signed, sign, Bool.false_and, ← sign]
    | true =>
        let magnitude : Decimal := { amount with negative := false }
        have characters : amount.characters = '-' :: magnitude.characters := by
          simp [Decimal.characters, positionalText, sign, magnitude]
        have magnitudeRead : Magnitude.zero.readWhole false magnitude.characters =
            .ok amount.toMagnitude := readWhole_characters rfl
        rw [characters, readPlain, magnitudeRead, unsignedZero, sign]
        rfl
  rw [ofText, text, String.toList_ofList, ofCharacters, read]

/-- The sign of zero makes no difference to a value. -/
@[simp]
theorem units_unsignedZero
    (amount : Decimal) :
    amount.unsignedZero.units = amount.units := by
  by_cases isZero : amount.mantissa = 0
  · simp [units, unsignedZero, signed, Magnitude.units, isZero]
  · simp [units, unsignedZero, signed, isZero]

@[simp]
theorem unsignedZero_unsignedZero
    (amount : Decimal) :
    amount.unsignedZero.unsignedZero = amount.unsignedZero := by
  simp [unsignedZero, signed]

/-- The sign of zero makes no difference to a product. -/
theorem mul?_unsignedZero
    (left right : Decimal) :
    left.mul? right.unsignedZero = left.mul? right := by
  have sameMantissa : right.unsignedZero.mantissa = right.mantissa := rfl
  have sameScale : right.unsignedZero.scale = right.scale := rfl
  rw [mul?, mul?, sameMantissa, sameScale]
  by_cases isZero : left.mantissa * right.mantissa = 0
  · rw [if_pos isZero, if_pos isZero]
  · have notZero : right.mantissa ≠ 0 := fun zero => isZero (by rw [zero, Nat.mul_zero])
    have sameSign : right.unsignedZero.negative = right.negative := by
      simp [unsignedZero, signed, notZero]
    rw [if_neg isZero, if_neg isZero, sameSign]

/-- A decimal without a sign is read back from its text. -/
theorem ofText?_text
    {amount : Decimal}
    (unsigned : amount.negative = false) :
    ofText? amount.text = some amount := by
  simp [ofText?, ofText, text, ofCharacters, readPlain_characters unsigned, Except.toOption]

end Decimal

end IntentPolicy
