import IntentPolicy.Number.Literal

namespace IntentPolicy

/-!
# How literals are written

The parts of a literal make up its text again: a sign, digits, a point with digits behind
it, and an exponent.
-/

theorem splitSign_negative
    {characters unsigned : List Char}
    (split : splitSign characters = (true, unsigned)) :
    characters = '-' :: unsigned := by
  unfold splitSign at split
  split at split
  · simp only [Prod.mk.injEq, true_and] at split
    rw [split]
  · simp at split
  · simp at split

theorem splitSign_unsigned
    {first : Char}
    {rest : List Char}
    (noMinus : first ≠ '-')
    (noPlus : first ≠ '+') :
    splitSign (first :: rest) = (false, first :: rest) := by
  unfold splitSign
  split
  · next same =>
      exact (noMinus (List.cons.inj same).1).elim
  · next same =>
      exact (noPlus (List.cons.inj same).1).elim
  · rfl

/-- A text is its sign, if it has one, and what is split off behind it. -/
theorem splitSign_append
    {characters unsigned : List Char}
    {negative : Bool}
    (split : splitSign characters = (negative, unsigned)) :
    ∃ sign, characters = sign ++ unsigned ∧
      (∀ character ∈ sign, character = '-' ∨ character = '+') ∧
      ∀ first rest, first ≠ '-' → first ≠ '+' →
        splitSign (sign ++ first :: rest) = (negative, first :: rest) := by
  unfold splitSign at split
  split at split
  · obtain ⟨rfl, rfl⟩ := Prod.mk.inj split
    exact ⟨['-'], rfl, by simp, fun _ _ _ _ => rfl⟩
  · obtain ⟨rfl, rfl⟩ := Prod.mk.inj split
    exact ⟨['+'], rfl, by simp, fun _ _ _ _ => rfl⟩
  · obtain ⟨rfl, rfl⟩ := Prod.mk.inj split
    exact ⟨[], rfl, by simp, fun _ _ noMinus noPlus => splitSign_unsigned noMinus noPlus⟩

namespace LiteralParts

/-- The text of the point and of the digits behind it, if there is a point. -/
inductive FractionText : List Char → List Char → Prop where
  | absent : FractionText [] []
  | present (digits : List Char) : FractionText digits ('.' :: digits)

/-- What makes up the text of a literal behind its sign. -/
structure Shape (parts : LiteralParts) (unsigned point exponent : List Char) : Prop where
  unsigned_eq : unsigned = parts.whole ++ (point ++ exponent)
  wholeDigits : ∀ character ∈ parts.whole, character.isDigit = true
  fractionDigits : ∀ character ∈ parts.fraction, character.isDigit = true
  someDigit : parts.whole ≠ [] ∨ parts.fraction ≠ []
  fractionText : FractionText parts.fraction point
  exponentRead : exponentPart? exponent = some parts.exponent

/-- The characters that are taken while they pass a test pass it. -/
private theorem test_of_mem_takeWhile
    (test : Char → Bool)
    (characters : List Char) :
    ∀ character ∈ characters.takeWhile test, test character = true :=
  List.all_eq_true.mp List.all_takeWhile

/-- A text is read as a literal only if it has the shape of one. -/
theorem shape_of_read?
    {characters : List Char}
    {parts : LiteralParts}
    (read : LiteralParts.read? characters = some parts) :
    ∃ unsigned point exponent, splitSign characters = (parts.negative, unsigned) ∧
      parts.Shape unsigned point exponent := by
  unfold LiteralParts.read? at read
  rcases signed : splitSign characters with ⟨negative, unsigned⟩
  simp only [signed] at read
  have wholeAndRest :
      unsigned.takeWhile Char.isDigit ++ unsigned.dropWhile Char.isDigit = unsigned :=
    List.takeWhile_append_dropWhile
  -- The two parts are named, since the cases below rewrite what stands behind the digits.
  generalize unsigned.dropWhile Char.isDigit = behind at read wholeAndRest
  have wholeDigits := test_of_mem_takeWhile Char.isDigit unsigned
  generalize unsigned.takeWhile Char.isDigit = whole at read wholeAndRest wholeDigits
  rcases fractionSplit : DecimalLiteral.splitFraction behind with ⟨fraction, exponent⟩
  simp only [fractionSplit] at read
  split at read
  · cases read
  · next someDigit =>
      obtain ⟨power, exponentRead, rfl⟩ := Option.map_eq_some_iff.mp read
      have someDigit : whole ≠ [] ∨ fraction ≠ [] := by
        simp only [Bool.and_eq_true, List.isEmpty_iff, not_and] at someDigit
        by_cases noWhole : whole = []
        · exact Or.inr (someDigit noWhole)
        · exact Or.inl noWhole
      unfold DecimalLiteral.splitFraction at fractionSplit
      split at fractionSplit
      · next rest =>
          obtain ⟨rfl, rfl⟩ := Prod.mk.inj fractionSplit
          refine ⟨unsigned, '.' :: rest.takeWhile Char.isDigit, rest.dropWhile Char.isDigit,
            rfl, ?_⟩
          exact {
            unsigned_eq := by
              rw [← wholeAndRest, List.cons_append, List.takeWhile_append_dropWhile]
            wholeDigits := wholeDigits
            fractionDigits := test_of_mem_takeWhile _ _
            someDigit := someDigit
            fractionText := .present _
            exponentRead := exponentRead }
      · obtain ⟨rfl, rfl⟩ := Prod.mk.inj fractionSplit
        refine ⟨unsigned, [], behind, rfl, ?_⟩
        exact {
          unsigned_eq := wholeAndRest.symm
          wholeDigits := wholeDigits
          fractionDigits := by simp
          someDigit := someDigit
          fractionText := .absent
          exponentRead := exponentRead }

namespace Shape

variable {parts : LiteralParts} {unsigned point exponent : List Char}

/-- The digits and the point of a literal open with a digit or the point. -/
theorem mantissa_opening
    (shape : parts.Shape unsigned point exponent) :
    ∃ first rest, parts.whole ++ point = first :: rest ∧
      (first = '.' ∨ first.isDigit = true) := by
  cases wholeShape : parts.whole with
  | cons first rest =>
      have firstDigit : first.isDigit = true :=
        shape.wholeDigits first (by simp [wholeShape])
      exact ⟨first, _, rfl, Or.inr firstDigit⟩
  | nil =>
      have fractionThere : parts.fraction ≠ [] :=
        shape.someDigit.resolve_left (fun whole => whole wholeShape)
      have pointThere := shape.fractionText
      generalize parts.fraction = fraction at fractionThere pointThere
      cases pointThere with
      | absent => exact (fractionThere rfl).elim
      | present => exact ⟨'.', _, rfl, Or.inl rfl⟩

/-- Behind its sign a literal opens with a digit or a point. -/
theorem opening
    (shape : parts.Shape unsigned point exponent) :
    ∃ first rest, unsigned = first :: rest ∧ (first = '.' ∨ first.isDigit = true) := by
  obtain ⟨first, rest, mantissa, start⟩ := shape.mantissa_opening
  refine ⟨first, rest ++ exponent, ?_, start⟩
  rw [shape.unsigned_eq, ← List.append_assoc, mantissa, List.cons_append]

end Shape

end LiteralParts

end IntentPolicy
