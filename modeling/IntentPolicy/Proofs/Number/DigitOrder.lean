import IntentPolicy.Proofs.Number.PositionalText

namespace IntentPolicy

/-!
# The order of digits

Runs of ASCII digits of one length are ordered as texts like the numbers that they stand for.
-/

theorem toNat_of_isDigit
    {digit : Char}
    (isDigit : digit.isDigit = true) :
    digit.toNat = 48 + digitValue digit ∧ digitValue digit < 10 := by
  simp only [Char.isDigit, Bool.and_eq_true, decide_eq_true_eq, ge_iff_le,
    UInt32.le_iff_toNat_le] at isDigit
  have nine : ('9' : Char).val.toNat = 57 := rfl
  have zero : ('0' : Char).val.toNat = 48 := rfl
  simp only [digitValue, Char.toNat]
  omega

theorem digitsValue_lt
    {digits : List Char}
    (areDigits : ∀ digit ∈ digits, digit.isDigit = true) :
    digitsValue digits < tenTo digits.length := by
  induction digits with
  | nil => exact Nat.one_pos
  | cons digit digits inductionHypothesis =>
      obtain ⟨isDigit, areDigitsBehind⟩ := List.forall_mem_cons.mp areDigits
      have here := (toNat_of_isDigit isDigit).2
      have behind := inductionHypothesis areDigitsBehind
      rw [digitsValue_cons, List.length_cons, tenTo_eq, tenTo_eq, Nat.pow_succ]
      rw [tenTo_eq] at behind
      nlinarith

/-- Of two numbers with as many digits, the digits of the smaller come first. -/
theorem lt_of_digitsValue_lt
    {left right : List Char}
    (sameLength : left.length = right.length)
    (leftDigits : ∀ digit ∈ left, digit.isDigit = true)
    (rightDigits : ∀ digit ∈ right, digit.isDigit = true)
    (ordered : digitsValue left < digitsValue right) :
    left < right := by
  induction left generalizing right with
  | nil =>
      obtain rfl := List.eq_nil_of_length_eq_zero sameLength.symm
      cases ordered
  | cons first left inductionHypothesis =>
      obtain ⟨second, right, rfl⟩ := List.exists_cons_of_length_eq_add_one sameLength.symm
      obtain ⟨firstDigit, leftDigits⟩ := List.forall_mem_cons.mp leftDigits
      obtain ⟨secondDigit, rightDigits⟩ := List.forall_mem_cons.mp rightDigits
      have sameRest : left.length = right.length := Nat.succ.inj sameLength
      have rightBound := digitsValue_lt rightDigits
      have firstCode := (toNat_of_isDigit firstDigit).1
      have secondCode := (toNat_of_isDigit secondDigit).1
      rw [digitsValue_cons, digitsValue_cons, sameRest] at ordered
      rw [List.cons_lt_cons_iff]
      rcases Nat.lt_trichotomy (digitValue first) (digitValue second) with before | same | after
      · left
        rw [Char.lt_def, UInt32.lt_iff_toNat_lt]
        change first.toNat < second.toNat
        omega
      · have sameFirst : first = second := Char.toNat_inj.mp (by omega)
        rw [same] at ordered
        exact Or.inr ⟨sameFirst, inductionHypothesis sameRest leftDigits rightDigits (by omega)⟩
      · have oneMore := Nat.mul_le_mul_left (tenTo right.length) after
        rw [Nat.mul_succ] at oneMore
        omega

/-- Texts of one length are told apart before what follows them. -/
theorem append_lt_append_of_lt
    {left right : List Char}
    (sameLength : left.length = right.length)
    (ordered : left < right)
    (leftRest rightRest : List Char) :
    left ++ leftRest < right ++ rightRest := by
  induction left generalizing right with
  | nil =>
      obtain rfl := List.eq_nil_of_length_eq_zero sameLength.symm
      exact (List.lt_irrefl _ ordered).elim
  | cons first left inductionHypothesis =>
      obtain ⟨second, right, rfl⟩ := List.exists_cons_of_length_eq_add_one sameLength.symm
      rw [List.cons_lt_cons_iff] at ordered
      rw [List.cons_append, List.cons_append, List.cons_lt_cons_iff]
      rcases ordered with before | ⟨same, behind⟩
      · exact Or.inl before
      · exact Or.inr ⟨same, inductionHypothesis (Nat.succ.inj sameLength) behind⟩

section PaddedDigits

variable {width value left right : Nat}

theorem length_paddedDigits
    (someWidth : 0 < width)
    (fits : value < tenTo width) :
    (paddedDigits width value).length = width := by
  have digits : (decimalDigits value).length ≤ width :=
    (Nat.length_toDigits_le_iff (by decide) someWidth).mpr fits
  simp only [paddedDigits, List.length_append, List.length_replicate]
  omega

theorem paddedDigits_lt
    (someWidth : 0 < width)
    (leftFits : left < tenTo width)
    (rightFits : right < tenTo width)
    (ordered : left < right) :
    paddedDigits width left < paddedDigits width right := by
  apply lt_of_digitsValue_lt
  · rw [length_paddedDigits someWidth leftFits, length_paddedDigits someWidth rightFits]
  · exact fun _ member => isDigit_of_mem_paddedDigits member
  · exact fun _ member => isDigit_of_mem_paddedDigits member
  · rwa [digitsValue_paddedDigits, digitsValue_paddedDigits]

end PaddedDigits

end IntentPolicy
