import IntentPolicy.Web.Path

namespace IntentPolicy

/-!
# Reading percent-encoded text

A text in which percent signs are encoded stands for itself: it is decoded to what was encoded,
so different texts have different encodings.
-/

section Bytes

variable {characters : List Char} {escapes : Char → Bool}

theorem hexDigitValue?_upperHexDigit
    {value : Nat}
    (isDigit : value < 16) :
    hexDigitValue? (upperHexDigit value) = some value := by
  have everyDigit : ∀ digit : Fin 16, hexDigitValue? (upperHexDigit digit) = some digit.val := by
    decide
  exact everyDigit ⟨value, isDigit⟩

/-- An encoded byte is read back. -/
theorem percentBytes_percentByte
    (byte : UInt8)
    (rest : List Char) :
    percentBytes (percentByte byte ++ rest) = byte :: percentBytes rest := by
  have small : byte.toNat < 256 := byte.toNat_lt
  have highIsDigit : byte.toNat / 16 < 16 := by omega
  have lowIsDigit : byte.toNat % 16 < 16 := by omega
  rw [percentByte, List.cons_append, List.cons_append, List.cons_append, List.nil_append,
    percentBytes, hexDigitValue?_upperHexDigit highIsDigit,
    hexDigitValue?_upperHexDigit lowIsDigit]
  dsimp only
  rw [Nat.div_add_mod, UInt8.ofNat_toNat]

theorem percentBytes_flatMap
    (bytes : List UInt8)
    (rest : List Char) :
    percentBytes (bytes.flatMap percentByte ++ rest) = bytes ++ percentBytes rest := by
  induction bytes with
  | nil => rfl
  | cons byte bytes inductionHypothesis =>
      rw [List.flatMap_cons, List.append_assoc, percentBytes_percentByte, inductionHypothesis,
        List.cons_append]

/-- A character that is no percent sign stands for itself. -/
theorem percentBytes_cons
    {character : Char}
    (notMark : character ≠ '%')
    (rest : List Char) :
    percentBytes (character :: rest) = String.utf8EncodeChar character ++ percentBytes rest := by
  rw [percentBytes]
  rintro high low rest rfl
  exact (notMark rfl).elim

/-- An encoded text in which percent signs are encoded stands for the bytes of the text. -/
theorem percentBytes_percentEncode
    (escapesMark : escapes '%' = true)
    (characters : List Char) :
    percentBytes (percentEncode escapes characters) =
      characters.flatMap String.utf8EncodeChar := by
  induction characters with
  | nil => rfl
  | cons character characters inductionHypothesis =>
      rw [percentEncode] at inductionHypothesis ⊢
      rw [List.flatMap_cons, List.flatMap_cons]
      by_cases escaped : escapes character = true
      · rw [if_pos escaped, percentBytes_flatMap, inductionHypothesis]
      · have notMark : character ≠ '%' := by
          rintro rfl
          exact escaped escapesMark
        rw [if_neg escaped, List.singleton_append, percentBytes_cons notMark, inductionHypothesis]

end Bytes

/-- Characters that stand for the bytes of a text are decoded to the text. -/
theorem percentDecode?_of_percentBytes
    {encoded characters : List Char}
    (sameBytes : percentBytes encoded = characters.flatMap String.utf8EncodeChar) :
    percentDecode? encoded = some (String.ofList characters) := by
  have bytes : ByteArray.mk (percentBytes encoded).toArray = characters.utf8Encode := by
    rw [sameBytes, List.utf8Encode, ByteArray.ext_iff, List.data_toByteArray]
  rw [percentDecode?, bytes, String.fromUTF8?, dif_pos ByteArray.isValidUTF8_utf8Encode]
  rfl

/-- An encoded text in which percent signs are encoded is decoded to the text. -/
theorem percentDecode?_percentEncode
    {escapes : Char → Bool}
    (escapesMark : escapes '%' = true)
    (characters : List Char) :
    percentDecode? (percentEncode escapes characters) = some (String.ofList characters) :=
  percentDecode?_of_percentBytes (percentBytes_percentEncode escapesMark characters)

end IntentPolicy
