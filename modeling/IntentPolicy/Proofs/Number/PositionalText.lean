import IntentPolicy.Number.Decimal
import IntentPolicy.Proofs.Number.DoubleRange

namespace IntentPolicy

/-!
# Positional texts

The digits of a number have its value, and a decimal without a sign is written as the
digits in front of the point and those behind it.
-/

/-- The value of digits behind a value that has been read. -/
theorem digitsValue_append
    (read digits : List Char) :
    digitsValue (read ++ digits) = tenTo digits.length * digitsValue read + digitsValue digits := by
  change Nat.ofDigitChars 10 (read ++ digits) 0 = _
  rw [Nat.ofDigitChars_append, Nat.ofDigitChars_eq_ofDigitChars_zero]
  rfl

/-- The first digit counts as often as its place says. -/
theorem digitsValue_cons
    (digit : Char)
    (digits : List Char) :
    digitsValue (digit :: digits) =
      tenTo digits.length * digitValue digit + digitsValue digits := by
  simpa [digitsValue] using digitsValue_append [digit] digits

theorem digitsValue_decimalDigits
    (value : Nat) :
    digitsValue (decimalDigits value) = value :=
  Nat.ofDigitChars_ten_toDigits

/-- A number lies below the power of ten with as many zeros as it has digits. -/
theorem lt_tenTo_length_decimalDigits
    (value : Nat) :
    value < tenTo (decimalDigits value).length :=
  (Nat.length_toDigits_le_iff (by decide) Nat.length_toDigits_pos).mp (Nat.le_refl _)

theorem digitsValue_paddedDigits
    (width value : Nat) :
    digitsValue (paddedDigits width value) = value := by
  have zeros (count : Nat) : digitsValue (List.replicate count '0') = 0 := by
    change Nat.ofDigitChars 10 _ 0 = 0
    rw [Nat.ofDigitChars_replicate_zero, Nat.mul_zero]
  rw [paddedDigits, digitsValue_append, zeros, digitsValue_decimalDigits]
  omega

theorem le_length_paddedDigits
    (width value : Nat) :
    width ≤ (paddedDigits width value).length := by
  simp only [paddedDigits, List.length_append, List.length_replicate]
  omega

theorem isDigit_of_mem_paddedDigits
    {width value : Nat}
    {character : Char}
    (member : character ∈ paddedDigits width value) :
    character.isDigit = true := by
  rcases List.mem_append.mp member with inZeros | inDigits
  · rw [List.eq_of_mem_replicate inZeros]
    rfl
  · exact Nat.isDigit_of_mem_toDigits (by decide) (by decide) inDigits

namespace Decimal

/-- How a decimal without a sign is written: digits, and behind a point those of its scale. -/
structure Spelling (amount : Decimal) (whole fraction : List Char) : Prop where
  characters_eq : amount.characters = whole ++ if amount.scale = 0 then [] else '.' :: fraction
  wholeDigits : ∀ character ∈ whole, character.isDigit = true
  fractionDigits : ∀ character ∈ fraction, character.isDigit = true
  whole_ne_nil : whole ≠ []
  fraction_length : fraction.length = amount.scale
  value_eq : digitsValue (whole ++ fraction) = amount.mantissa

/-- Every decimal without a sign is spelled with digits and at most one point. -/
theorem exists_spelling
    {amount : Decimal}
    (unsigned : amount.negative = false) :
    ∃ whole fraction, amount.Spelling whole fraction := by
  let digits := paddedDigits (amount.scale + 1) amount.mantissa
  have enough : amount.scale + 1 ≤ digits.length := le_length_paddedDigits _ _
  refine ⟨digits.take (digits.length - amount.scale), digits.drop (digits.length - amount.scale),
    ?_⟩
  exact {
    characters_eq := by
      simp only [characters, positionalText, unsigned, Bool.false_eq_true, ↓reduceIte,
        List.nil_append]
      rfl
    wholeDigits := fun _ member => isDigit_of_mem_paddedDigits (List.mem_of_mem_take member)
    fractionDigits := fun _ member => isDigit_of_mem_paddedDigits (List.mem_of_mem_drop member)
    whole_ne_nil := by
      rw [← List.length_pos_iff, List.length_take]
      omega
    fraction_length := by
      rw [List.length_drop]
      omega
    value_eq := by
      rw [List.take_append_drop]
      exact digitsValue_paddedDigits _ _ }

end Decimal

end IntentPolicy
