import IntentPolicy.Proofs.Number.DecimalReading
import IntentPolicy.Text.Split

namespace IntentPolicy

/-!
# Reading literals as decimals

A literal is read as a base, the digits and the point behind its sign, which the exponent
scales.  Without an exponent the base stays as it is.
-/

/-- The character may stand in a decimal without an exponent, behind its sign. -/
def IsDecimalPart (character : Char) : Prop :=
  character.isDigit = true ∨ character = '_' ∨ character = '.'

/-- No letter stands in a decimal without an exponent. -/
theorem IsDecimalPart.ne_mark
    {character : Char}
    (part : IsDecimalPart character) :
    character ≠ 'e' ∧ character ≠ 'E' := by
  rcases part with digit | rfl | rfl
  · exact ⟨ne_of_isDigit digit 'e' rfl, ne_of_isDigit digit 'E' rfl⟩
  · decide
  · decide

namespace Magnitude

variable {magnitude result : Magnitude} {digitSeen : Bool} {characters : List Char}

/-- Rounding looks at every character. -/
theorem isDecimalPart_of_roundBy
    {character : Char}
    {rest : List Char}
    (rounded : magnitude.roundBy character rest = .ok result) :
    ∀ part ∈ character :: rest, IsDecimalPart part := by
  simp only [roundBy] at rounded
  split at rounded
  · cases rounded
  · next noStranger =>
      intro part member
      have known := List.find?_eq_none.mp noStranger part member
      simpa only [IsDecimalPart, Bool.not_eq_true, Bool.not_eq_false', Bool.or_eq_true,
        beq_iff_eq, or_assoc] using known

/-- A fraction is read only from digits, separators and points. -/
theorem isDecimalPart_of_readFraction
    (read : magnitude.readFraction digitSeen characters = .ok result) :
    ∀ character ∈ characters, IsDecimalPart character := by
  induction characters generalizing magnitude digitSeen with
  | nil => simp
  | cons character rest inductionHypothesis =>
      rw [readFraction_cons] at read
      split at read
      · exact isDecimalPart_of_roundBy read
      · split at read
        · next digit =>
            cases pushed : magnitude.pushFraction? (digitValue character) with
            | none =>
                rw [pushed] at read
                exact isDecimalPart_of_roundBy read
            | some longer =>
                rw [pushed] at read
                exact List.forall_mem_cons.mpr ⟨Or.inl digit, inductionHypothesis read⟩
        · split at read
          · next separator =>
              have isSeparator : character = '_' := by
                simp only [Bool.and_eq_true, decide_eq_true_eq] at separator
                exact separator.1
              exact List.forall_mem_cons.mpr
                ⟨Or.inr (Or.inl isSeparator), inductionHypothesis read⟩
          · cases read

theorem isDecimalPart_of_readWhole
    (read : magnitude.readWhole digitSeen characters = .ok result) :
    ∀ character ∈ characters, IsDecimalPart character := by
  induction characters generalizing magnitude digitSeen with
  | nil => simp
  | cons character rest inductionHypothesis =>
      rw [readWhole_cons] at read
      split at read
      · next digit =>
          cases pushed : magnitude.pushWhole? (digitValue character) with
          | none =>
              rw [pushed] at read
              cases read
          | some longer =>
              rw [pushed] at read
              exact List.forall_mem_cons.mpr ⟨Or.inl digit, inductionHypothesis read⟩
      · split at read
        · next point =>
            exact List.forall_mem_cons.mpr
              ⟨Or.inr (Or.inr point), isDecimalPart_of_readFraction read⟩
        · split at read
          · next separator =>
              have isSeparator : character = '_' := by
                simp only [Bool.and_eq_true, decide_eq_true_eq] at separator
                exact separator.1
              exact List.forall_mem_cons.mpr
                ⟨Or.inr (Or.inl isSeparator), inductionHypothesis read⟩
          · cases read

end Magnitude

namespace Decimal

/-- A decimal without an exponent is a sign and what is read behind it. -/
theorem readPlain_eq_map
    {characters unsigned : List Char}
    {negative : Bool}
    (someCharacter : characters ≠ [])
    (split : splitSign characters = (negative, unsigned)) :
    readPlain characters = (Magnitude.zero.readWhole false unsigned).map (signed negative) := by
  unfold splitSign at split
  split at split
  · obtain ⟨rfl, rfl⟩ := Prod.mk.inj split
    rfl
  · obtain ⟨rfl, rfl⟩ := Prod.mk.inj split
    rfl
  · next noMinus noPlus =>
      obtain ⟨rfl, rfl⟩ := Prod.mk.inj split
      obtain ⟨first, rest, rfl⟩ := List.exists_cons_of_ne_nil someCharacter
      apply readPlain_unsigned
      · rintro rfl
        exact noMinus rest rfl
      · rintro rfl
        exact noPlus rest rfl

/-- The character opens an exponent. -/
def isExponentMark (character : Char) : Bool :=
  character == 'e' || character == 'E'

/-- Digits that make up an exponent are read as its size, with or without a plus in front. -/
theorem readUnsigned?_of_splitSign
    {characters digits : List Char}
    (signed : splitSign characters = (false, digits))
    (areDigits : ¬ (digits.isEmpty || !digits.all Char.isDigit) = true) :
    readUnsigned? characters = some (digitsValue digits) := by
  unfold splitSign at signed
  split at signed
  · cases signed
  · obtain ⟨-, rfl⟩ := Prod.mk.inj signed
    exact if_neg areDigits
  · next noMinus noPlus =>
      obtain ⟨-, rfl⟩ := Prod.mk.inj signed
      unfold readUnsigned?
      split
      · next rest => exact (noPlus rest rfl).elim
      · exact if_neg areDigits

/-- Behind the mark stands the exponent that a literal has. -/
theorem exponent_of_mark
    {marker : Char}
    {rest : List Char}
    {exponent : Int}
    (read : exponentPart? (marker :: rest) = some exponent) :
    isExponentMark marker = true ∧
      ((exponent ≤ 0 ∧ ∃ digits, rest = '-' :: digits ∧
          readUnsigned? digits = some (-exponent).toNat) ∨
        0 ≤ exponent ∧ (∀ digits, rest ≠ '-' :: digits) ∧
          readUnsigned? rest = some exponent.toNat) := by
  simp only [exponentPart?] at read
  split at read
  · next isMark =>
      refine ⟨by simpa [isExponentMark] using isMark, ?_⟩
      rcases signed : splitSign rest with ⟨negative, digits⟩
      simp only [signed] at read
      split at read
      · cases read
      · next areDigits =>
          cases negative with
          | true =>
              obtain rfl := splitSign_negative signed
              simp only [↓reduceIte, Option.some.injEq] at read
              refine Or.inl ⟨by omega, digits, rfl, ?_⟩
              have noSign : splitSign digits = (false, digits) := by
                obtain ⟨first, others, rfl⟩ := List.exists_cons_of_ne_nil
                  (fun empty : digits = [] => areDigits (by rw [empty]; rfl))
                have isDigit : first.isDigit = true := by simp_all
                exact splitSign_unsigned (ne_of_isDigit isDigit '-' rfl)
                  (ne_of_isDigit isDigit '+' rfl)
              rw [← read, Int.neg_neg, Int.toNat_natCast]
              exact readUnsigned?_of_splitSign noSign areDigits
          | false =>
              simp only [Bool.false_eq_true, ↓reduceIte, Option.some.injEq] at read
              refine Or.inr ⟨by omega, ?_, ?_⟩
              · rintro others rfl
                cases signed
              · rw [← read, Int.toNat_natCast]
                exact readUnsigned?_of_splitSign signed areDigits
  · cases read

/-- No exponent mark stands among a sign, the digits and the point of a literal. -/
theorem not_isExponentMark_of_shape
    {sign unsigned point exponent : List Char}
    {parts : LiteralParts}
    (shape : parts.Shape unsigned point exponent)
    (signs : ∀ character ∈ sign, character = '-' ∨ character = '+')
    {character : Char}
    (member : character ∈ sign ++ (parts.whole ++ point)) :
    isExponentMark character = false := by
  have ofDigit {digit : Char} (isDigit : digit.isDigit = true) : isExponentMark digit = false := by
    simp [isExponentMark, ne_of_isDigit isDigit 'e' rfl, ne_of_isDigit isDigit 'E' rfl]
  rcases List.mem_append.mp member with inSign | inMantissa
  · rcases signs character inSign with rfl | rfl <;> decide
  · rcases List.mem_append.mp inMantissa with inWhole | inPoint
    · exact ofDigit (shape.wholeDigits character inWhole)
    · have fractionDigits := shape.fractionDigits
      have fractionText := shape.fractionText
      generalize parts.fraction = fraction at fractionDigits fractionText
      cases fractionText with
      | absent => cases inPoint
      | present =>
          rcases List.mem_cons.mp inPoint with rfl | inFraction
          · decide
          · exact ofDigit (fractionDigits character inFraction)

/-- A base under an exponent. -/
def scale? (cutting : Bool) (base : Decimal) (exponent : Int) : Option Decimal :=
  if exponent < 0 then base.shiftRight? cutting (-exponent).toNat
  else base.shiftLeft? exponent.toNat

/-- Without places to move the point by there are no two ways to move it. -/
theorem shiftRight?_zero
    (cutting : Bool)
    (base : Decimal) :
    base.shiftRight? cutting 0 = base.shiftLeft? 0 := by
  have few := base.scale_le
  rw [shiftRight?, if_neg (by decide), Nat.add_zero, if_pos few, shiftLeft?,
    if_pos (Nat.zero_le _), Nat.sub_zero]

/-- The exponent zero keeps a base that has been read. -/
theorem scale?_zero
    (cutting negative : Bool)
    (magnitude : Magnitude) :
    (signed negative magnitude).scale? cutting 0 = some (signed negative magnitude) := by
  have same : Magnitude.ofParts? magnitude.mantissa magnitude.scale = some magnitude :=
    Magnitude.ofParts?_eq_some_iff.mpr ⟨rfl, rfl⟩
  rw [scale?, if_neg (by decide), Int.toNat_zero, shiftLeft?, if_pos (Nat.zero_le _),
    Nat.sub_zero, ofParts?]
  change (Magnitude.ofParts? magnitude.mantissa magnitude.scale).map _ = _
  simp [signed, same]

end Decimal

namespace LiteralParts

/-- The digits and the point of a literal, under its sign, as a decimal. -/
def readBase? (parts : LiteralParts) (point : List Char) : Option Decimal :=
  ((Magnitude.zero.readWhole false (parts.whole ++ point)).map
    (Decimal.signed parts.negative)).toOption

theorem readBase?_of_readWhole
    (parts : LiteralParts)
    (point : List Char) :
    parts.readBase? point =
      match Magnitude.zero.readWhole false (parts.whole ++ point) with
      | .ok magnitude => some (Decimal.signed parts.negative magnitude)
      | .error _ => none := by
  rw [readBase?]
  cases Magnitude.zero.readWhole false (parts.whole ++ point) <;> rfl

end LiteralParts

namespace Decimal

variable {cutting : Bool} {parts : LiteralParts} {characters unsigned point rest : List Char}
  {marker : Char}

/-- Without an exponent mark nothing is read as a base and an exponent. -/
theorem readScientific?_of_no_mark
    (split : splitSign characters = (parts.negative, unsigned))
    (shape : parts.Shape unsigned point []) :
    readScientific? cutting characters = none := by
  obtain ⟨sign, textShape, signs, -⟩ := splitSign_append split
  have unmarked : characters.any isExponentMark = false := by
    rw [textShape, shape.unsigned_eq, List.append_nil, List.any_eq_false]
    intro character member
    simp [not_isExponentMark_of_shape shape signs member]
  have marks : (fun character : Char => character == 'e' || character == 'E') =
      isExponentMark := rfl
  simp only [readScientific?]
  rw [marks, unmarked]
  rfl

/-- With an exponent mark a literal is read as its base under its exponent. -/
theorem readScientific?_of_mark
    (split : splitSign characters = (parts.negative, unsigned))
    (shape : parts.Shape unsigned point (marker :: rest)) :
    readScientific? cutting characters =
      (parts.readBase? point).bind fun base => base.scale? cutting parts.exponent := by
  obtain ⟨sign, textShape, signs, resplit⟩ := splitSign_append split
  have noMark {character : Char} (member : character ∈ sign ++ (parts.whole ++ point)) :
      isExponentMark character = false :=
    not_isExponentMark_of_shape shape signs member
  have textParts : characters = sign ++ (parts.whole ++ point) ++ marker :: rest := by
    rw [textShape, shape.unsigned_eq]
    simp
  have marks : (fun character : Char => character == 'e' || character == 'E') =
      isExponentMark := rfl
  have noMarks : (fun character : Char => !(character == 'e' || character == 'E')) =
      fun character => !isExponentMark character := rfl
  obtain ⟨marked, places⟩ := exponent_of_mark shape.exponentRead
  have passed : ∀ character ∈ sign ++ (parts.whole ++ point),
      (!isExponentMark character) = true := by
    intro character member
    rw [noMark member]
    rfl
  have failed : ¬ (!isExponentMark marker) = true := by simp [marked]
  obtain ⟨front, behind⟩ := cut_at_first rest passed failed
  have someMark : (sign ++ (parts.whole ++ point) ++ marker :: rest).any isExponentMark = true := by
    rw [List.any_append, List.any_cons, marked, Bool.true_or, Bool.or_true]
  have baseRead : readPlain (sign ++ (parts.whole ++ point)) =
      (Magnitude.zero.readWhole false (parts.whole ++ point)).map (signed parts.negative) := by
    obtain ⟨first, others, mantissa, start⟩ := shape.mantissa_opening
    rw [mantissa]
    apply readPlain_eq_map (by simp)
    rcases start with rfl | isDigit
    · exact resplit '.' others (by decide) (by decide)
    · exact resplit first others (ne_of_isDigit isDigit '-' rfl) (ne_of_isDigit isDigit '+' rfl)
  simp only [readScientific?, LiteralParts.readBase?]
  rw [marks, noMarks, textParts, someMark, front, behind, baseRead]
  cases (Magnitude.zero.readWhole false (parts.whole ++ point)).map (signed parts.negative) with
  | error reason => rfl
  | ok base =>
      simp only [Bool.not_true, Bool.false_eq_true, ↓reduceIte, List.drop_one, List.tail_cons,
        Except.toOption, Option.bind_some, scale?]
      rcases places with ⟨notAbove, digits, rfl, placesRead⟩ | ⟨notBelow, noMinus, placesRead⟩
      · simp only [placesRead, Option.bind_some]
        rcases Int.lt_or_eq_of_le notAbove with below | isZero
        · rw [if_pos below]
        · rw [isZero]
          exact shiftRight?_zero cutting base
      · rw [if_neg (Int.not_lt.mpr notBelow)]
        split
        · next digits => exact (noMinus digits rfl).elim
        · rw [placesRead, Option.bind_some]

/-- A literal is read as a decimal if its base is and the exponent leaves it one. -/
theorem ofText?_of_shape
    {token : String}
    {exponent : List Char}
    (split : splitSign token.toList = (parts.negative, unsigned))
    (shape : parts.Shape unsigned point exponent) :
    ofText? token = (parts.readBase? point).bind fun base => base.scale? true parts.exponent := by
  have someCharacter : token.toList ≠ [] := by
    obtain ⟨sign, textShape, -⟩ := splitSign_append split
    obtain ⟨first, others, opening, -⟩ := shape.opening
    simp [textShape, opening]
  have plain := readPlain_eq_map someCharacter split
  rw [ofText?, ofText, ofCharacters]
  cases exponent with
  | nil =>
      have noExponent : parts.exponent = 0 := (Option.some.inj shape.exponentRead).symm
      rw [shape.unsigned_eq, List.append_nil] at plain
      rw [plain, readScientific?_of_no_mark split shape, parts.readBase?_of_readWhole, noExponent]
      cases Magnitude.zero.readWhole false (parts.whole ++ point) with
      | error reason => rfl
      | ok magnitude => exact (scale?_zero true parts.negative magnitude).symm
  | cons marker rest =>
      rw [← readScientific?_of_mark split shape]
      cases plainRead : Magnitude.zero.readWhole false unsigned with
      | ok magnitude =>
          have part := Magnitude.isDecimalPart_of_readWhole plainRead marker
            (by simp [shape.unsigned_eq])
          have marked := (exponent_of_mark shape.exponentRead).1
          simp [isExponentMark, part.ne_mark.1, part.ne_mark.2] at marked
      | error reason =>
          rw [plain, plainRead]
          cases readScientific? true token.toList <;> rfl

/-- What is left of a base that is not cut is left of one that may be. -/
theorem scale?_of_not_cutting
    {base amount : Decimal}
    {exponent : Int}
    (scaled : base.scale? false exponent = some amount) :
    base.scale? true exponent = some amount := by
  unfold scale? at scaled ⊢
  split at scaled
  · next below =>
      rw [if_pos below]
      unfold shiftRight? at scaled ⊢
      split at scaled
      · cases scaled
      · next inRange =>
          rw [if_neg inRange]
          split at scaled
          · next placesLeft => rw [if_pos placesLeft, scaled]
          · cases scaled
  · next notBelow => rw [if_neg notBelow, scaled]

/-- A literal that is read as no decimal is read as none without cutting either. -/
theorem readScientific?_of_ofText?
    {token : String}
    {exponent : List Char}
    (split : splitSign token.toList = (parts.negative, unsigned))
    (shape : parts.Shape unsigned point exponent)
    (notRead : ofText? token = none) :
    readScientific? false token.toList = none := by
  cases exponent with
  | nil => exact readScientific?_of_no_mark split shape
  | cons marker rest =>
      rw [ofText?_of_shape split shape] at notRead
      rw [readScientific?_of_mark split shape]
      cases baseRead : parts.readBase? point with
      | none => rfl
      | some base =>
          rw [baseRead, Option.bind_some] at notRead
          rw [Option.bind_some]
          apply Option.eq_none_iff_forall_ne_some.mpr
          intro amount scaled
          cases notRead.symm.trans (scale?_of_not_cutting scaled)

end Decimal

end IntentPolicy
