import IntentPolicy.Proofs.Number.DoubleRange
import IntentPolicy.Proofs.Number.LiteralShape
import IntentPolicy.Proofs.Sentence.Words
import IntentPolicy.Sentence.Validation

namespace IntentPolicy

/-!
# Which tokens are thresholds

A threshold is a literal whose double is finite and not below zero.  No such token names a
currency, so leaving the currency out of a sentence is never ambiguous.
-/

theorem asciiLower_of_isDigit
    {character : Char}
    (digit : character.isDigit = true) :
    asciiLower character = character := by
  simp only [Char.isDigit, Bool.and_eq_true, decide_eq_true_eq] at digit
  have notUpper : ¬ ('A'.val ≤ character.val) := by
    intro upper
    exact absurd (UInt32.le_trans upper digit.2) (by decide)
  exact dif_neg fun upper => notUpper upper.1

/-- A character that opens a literal. -/
def IsLiteralStart (first : Char) : Prop :=
  first = '-' ∨ first = '+' ∨ first = '.' ∨ first.isDigit = true

namespace IsLiteralStart

/-- What opens a literal is its own lower case. -/
theorem asciiLower_eq
    {first : Char}
    (start : IsLiteralStart first) :
    asciiLower first = first := by
  rcases start with rfl | rfl | rfl | digit
  · decide
  · decide
  · decide
  · exact asciiLower_of_isDigit digit

theorem ne_of_isLower
    {first : Char}
    (start : IsLiteralStart first)
    (letter : Char)
    (lower : letter.isLower = true) :
    first ≠ letter := by
  rintro rfl
  rcases start with rfl | rfl | rfl | digit
  · cases lower
  · cases lower
  · cases lower
  · simp only [Char.isDigit, Bool.and_eq_true, decide_eq_true_eq] at digit
    have notBelow := of_decide_eq_true (Bool.and_eq_true_iff.mp lower).1
    exact absurd (UInt32.le_trans notBelow digit.2) (by decide)

theorem not_isBlank
    {first : Char}
    (start : IsLiteralStart first) :
    isBlank first = false := by
  rcases start with rfl | rfl | rfl | digit
  · decide
  · decide
  · decide
  · simp only [Char.isDigit, Bool.and_eq_true, decide_eq_true_eq, UInt32.le_iff_toNat_le] at digit
    have low : 48 ≤ first.toNat := digit.1
    have high : first.toNat ≤ 57 := digit.2
    simp [isBlank]
    omega

end IsLiteralStart

namespace Double

/-- The words for values without digits denote nothing finite. -/
theorem not_isFinite_of_ofWord?
    {negative : Bool}
    {word : List Char}
    {number : Double}
    (read : ofWord? negative word = some number) :
    number.isFinite = false := by
  simp only [ofWord?] at read
  split at read
  · rw [← Option.some.inj read]
    exact not_isFinite_infinity negative
  · split at read
    · rw [← Option.some.inj read]
      exact not_isFinite_nan
    · cases read

/-- A text that opens like a literal is no word for a value without digits. -/
theorem ofWord?_eq_none
    {negative : Bool}
    {first : Char}
    {rest : List Char}
    (start : IsLiteralStart first) :
    ofWord? negative (first :: rest) = none := by
  have infShape : "inf".toList = ['i', 'n', 'f'] := by decide
  have infinityShape : "infinity".toList = ['i', 'n', 'f', 'i', 'n', 'i', 't', 'y'] := by decide
  have nanShape : "nan".toList = ['n', 'a', 'n'] := by decide
  simp [ofWord?, infShape, infinityShape, nanShape, start.asciiLower_eq,
    start.ne_of_isLower 'i' rfl, start.ne_of_isLower 'n' rfl]

/-- A text that has the shape of a literal is read as the double nearest to it. -/
theorem ofText?_of_read?
    {characters : List Char}
    {parts : LiteralParts}
    (read : LiteralParts.read? characters = some parts) :
    ofText? characters = some (ofLiteral (.ofParts parts)) := by
  obtain ⟨unsigned, point, exponent, signed, shape⟩ := LiteralParts.shape_of_read? read
  have notWord : ofWord? parts.negative unsigned = none := by
    obtain ⟨first, rest, rfl, start⟩ := shape.opening
    exact ofWord?_eq_none (Or.inr (Or.inr start))
  simp only [ofText?, signed, notWord, DecimalLiteral.read?, read, Option.map_some]

/-- A text that is read as a finite double has the shape of a literal. -/
theorem literal_of_isFinite
    {characters : List Char}
    {number : Double}
    (read : ofText? characters = some number)
    (finite : number.isFinite = true) :
    ∃ parts, LiteralParts.read? characters = some parts ∧ number = ofLiteral (.ofParts parts) := by
  rcases signed : splitSign characters with ⟨negative, unsigned⟩
  simp only [ofText?, signed] at read
  cases word : ofWord? negative unsigned with
  | some named =>
      simp only [word, Option.some.injEq] at read
      rw [← read, not_isFinite_of_ofWord? word] at finite
      cases finite
  | none =>
      simp only [word, DecimalLiteral.read?, Option.map_map] at read
      obtain ⟨parts, literalRead, sameNumber⟩ := Option.map_eq_some_iff.mp read
      exact ⟨parts, literalRead, sameNumber.symm⟩

end Double

/-- A token is a threshold if it is a literal, its double is finite and not below zero, and
its amount is in range. -/
theorem readThreshold_eq_ok_iff
    {token : String}
    {amount : Decimal} :
    readThreshold token = .ok amount ↔
      ∃ parts exact, LiteralParts.read? token.toList = some parts ∧
        (Double.ofLiteral (.ofParts parts)).isFinite = true ∧
        Double.zero.le (.ofLiteral (.ofParts parts)) = true ∧
        thresholdAmount? token (.ofLiteral (.ofParts parts)) = some exact ∧
        amount = exact.normalize := by
  constructor
  · intro accepted
    cases read : Double.ofText? token.toList with
    | none => simp [readThreshold, read] at accepted
    | some approximation =>
        simp only [readThreshold, read, Bool.and_eq_true] at accepted
        split at accepted
        · next inRange =>
            cases amountRead : thresholdAmount? token approximation with
            | none => simp [amountRead] at accepted
            | some exact =>
                simp only [amountRead, Except.ok.injEq] at accepted
                obtain ⟨parts, literalRead, rfl⟩ := Double.literal_of_isFinite read inRange.1
                exact ⟨parts, exact, literalRead, inRange.1, inRange.2, amountRead,
                  accepted.symm⟩
        · cases accepted
  · rintro ⟨parts, exact, literalRead, finite, notNegative, amountRead, rfl⟩
    simp [readThreshold, Double.ofText?_of_read? literalRead, finite, notNegative, amountRead]

/-- A threshold opens like a literal. -/
theorem literalStart_of_readThreshold
    {token : String}
    {amount : Decimal}
    (accepted : readThreshold token = .ok amount) :
    ∃ first rest, token.toList = first :: rest ∧ IsLiteralStart first := by
  obtain ⟨parts, exact, read, -⟩ := readThreshold_eq_ok_iff.mp accepted
  obtain ⟨unsigned, point, exponent, signed, shape⟩ := LiteralParts.shape_of_read? read
  obtain ⟨first, rest, rfl, start⟩ := shape.opening
  unfold splitSign at signed
  split at signed
  · next behind characters => exact ⟨'-', behind, characters, Or.inl rfl⟩
  · next behind characters => exact ⟨'+', behind, characters, Or.inr (Or.inl rfl)⟩
  · obtain ⟨-, characters⟩ := Prod.mk.inj signed
    exact ⟨first, rest, characters, Or.inr (Or.inr start)⟩

/-- Trimming keeps a first character that is not blank. -/
theorem trimBlanks_cons
    {first : Char}
    (rest : List Char)
    (notBlank : isBlank first = false) :
    ∃ kept, trimBlanks (first :: rest) = first :: kept := by
  have reversed : (first :: rest).reverse.dropWhile isBlank =
      rest.reverse.dropWhile isBlank ++ [first] := by
    rw [List.reverse_cons, List.dropWhile_append]
    cases shape : rest.reverse.dropWhile isBlank with
    | nil => simp [notBlank]
    | cons head tail => simp
  refine ⟨(rest.reverse.dropWhile isBlank).reverse, ?_⟩
  rw [trimBlanks, List.dropWhile_cons_of_neg (by simp [notBlank]), dropBlankEnd, reversed]
  simp

/-- A token that is a threshold names no currency. -/
theorem currency_of_readThreshold
    {token : String}
    {amount : Decimal}
    (accepted : readThreshold token = .ok amount) :
    Currency.ofText? token = none := by
  obtain ⟨first, rest, characters, start⟩ := literalStart_of_readThreshold accepted
  obtain ⟨kept, trimmedShape⟩ := trimBlanks_cons rest start.not_isBlank
  cases named : Currency.ofText? token with
  | none => rfl
  | some currency =>
      have word : asciiLowered (trimmed token) = wordOf currency :=
        Vocabulary.eq_wordOf_of_ofWord? named
      have spelled : (wordOf currency).toList = first :: kept.map asciiLower := by
        rw [← word]
        simp [asciiLowered, trimmed, characters, trimmedShape, start.asciiLower_eq]
      cases currency with
      | chf => exact (start.ne_of_isLower _ rfl (List.cons.inj spelled).1.symm).elim
      | eur => exact (start.ne_of_isLower _ rfl (List.cons.inj spelled).1.symm).elim
      | usd => exact (start.ne_of_isLower _ rfl (List.cons.inj spelled).1.symm).elim

end IntentPolicy
