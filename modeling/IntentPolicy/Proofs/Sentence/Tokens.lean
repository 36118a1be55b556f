import IntentPolicy.Proofs.Text.LowerCase
import IntentPolicy.Sentence.Token
import Mathlib.Data.List.Induction

namespace IntentPolicy

/-!
# Tokens of texts that are put together

Blanks and commas cut a text into parts that are cut into tokens on their own, and a token
is cut into itself.
-/

variable {word characters behind : List Char}

/-- A blank ends what stands in front of it. -/
theorem cutTokens_append_blank
    {blank : Char}
    (blankIsBlank : isBlank blank = true) :
    cutTokens word (characters ++ blank :: behind) =
      cutTokens word characters ++ cutTokens [] behind := by
  induction characters generalizing word with
  | nil => simp only [List.nil_append, cutTokens, blankIsBlank, ↓reduceIte]
  | cons character rest inductionHypothesis =>
      simp only [List.cons_append, cutTokens, inductionHypothesis]
      split
      · rw [List.append_assoc]
      · split
        · rw [List.append_assoc, List.cons_append]
        · rfl

/-- A comma ends what stands in front of it, and is a token. -/
theorem cutTokens_append_comma :
    cutTokens word (characters ++ ',' :: behind) =
      cutTokens word characters ++ [','] :: cutTokens [] behind := by
  induction characters generalizing word with
  | nil =>
      have commaNotBlank : isBlank ',' = false := by decide
      simp only [List.nil_append, cutTokens, commaNotBlank, Bool.false_eq_true, ↓reduceIte]
  | cons character rest inductionHypothesis =>
      simp only [List.cons_append, cutTokens, inductionHypothesis]
      split
      · rw [List.append_assoc]
      · split
        · rw [List.append_assoc, List.cons_append]
        · rfl

/-- Settled characters go on with a word. -/
theorem cutTokens_of_isSettled
    (settled : ∀ character ∈ characters, IsSettled character) :
    cutTokens word characters = flushWord (word ++ characters) := by
  induction characters generalizing word with
  | nil => rw [cutTokens, List.append_nil]
  | cons character rest inductionHypothesis =>
      obtain ⟨notBlank, notComma, lowered⟩ := settled character (by simp)
      rw [cutTokens, notBlank, if_neg (by simp), if_neg notComma, lowered, inductionHypothesis,
        List.append_assoc, List.singleton_append]
      intro later member
      exact settled later (List.mem_cons_of_mem character member)

/-- A word that has been read is a token of settled characters. -/
theorem settled_of_mem_flushWord
    {token : List Char}
    (settled : ∀ character ∈ word, IsSettled character)
    (member : token ∈ flushWord word) :
    token ≠ [] ∧ ∀ character ∈ token, IsSettled character := by
  unfold flushWord at member
  split at member
  · cases member
  · next notEmpty =>
      obtain rfl := List.mem_singleton.mp member
      exact ⟨by simpa using notEmpty, settled⟩

/-- Every token is a comma, or holds settled characters only. -/
theorem settled_of_mem_cutTokens
    {token : List Char}
    (settled : ∀ character ∈ word, IsSettled character)
    (member : token ∈ cutTokens word characters) :
    token = [','] ∨ token ≠ [] ∧ ∀ character ∈ token, IsSettled character := by
  induction characters generalizing word with
  | nil =>
      rw [cutTokens] at member
      exact Or.inr (settled_of_mem_flushWord settled member)
  | cons character rest inductionHypothesis =>
      rw [cutTokens] at member
      split at member
      · rcases List.mem_append.mp member with inWord | inRest
        · exact Or.inr (settled_of_mem_flushWord settled inWord)
        · exact inductionHypothesis (by simp) inRest
      · next notBlank =>
          split at member
          · rcases List.mem_append.mp member with inWord | inRest
            · exact Or.inr (settled_of_mem_flushWord settled inWord)
            · rcases List.mem_cons.mp inRest with isComma | inRest
              · exact Or.inl isComma
              · exact inductionHypothesis (by simp) inRest
          · next notComma =>
              apply inductionHypothesis _ member
              intro later inLonger
              rcases List.mem_append.mp inLonger with inWord | inLowered
              · exact settled later inWord
              · exact isSettled_of_mem_lowerCase (Bool.eq_false_iff.mpr notBlank) notComma
                  inLowered

/-- The text is cut into nothing but itself. -/
def IsToken (token : String) : Prop :=
  tokenize token = [token]

instance (token : String) : Decidable (IsToken token) :=
  inferInstanceAs (Decidable (_ = _))

/-- A text of settled characters is a token. -/
theorem isToken_of_isSettled
    {token : String}
    (notEmpty : token.toList ≠ [])
    (settled : ∀ character ∈ token.toList, IsSettled character) :
    IsToken token := by
  rw [IsToken, tokenize, cutTokens_of_isSettled settled, List.nil_append, flushWord,
    if_neg (by simpa using notEmpty), List.map_singleton, String.ofList_toList]

/-- Every token of a text is cut into itself. -/
theorem isToken_of_mem_tokenize
    {text token : String}
    (member : token ∈ tokenize text) :
    IsToken token := by
  obtain ⟨characters, cut, rfl⟩ := List.mem_map.mp member
  rcases settled_of_mem_cutTokens (by simp) cut with rfl | ⟨notEmpty, settled⟩
  · decide
  · apply isToken_of_isSettled
    · rwa [String.toList_ofList]
    · rwa [String.toList_ofList]

/-- Texts around a blank are cut apart. -/
theorem tokenize_append_blank
    (text behind : String) :
    tokenize (text ++ " " ++ behind) = tokenize text ++ tokenize behind := by
  have characters :
      (text ++ " " ++ behind).toList = text.toList ++ ' ' :: behind.toList := by
    simp
  rw [tokenize, characters, cutTokens_append_blank rfl, List.map_append]
  rfl

/-- Texts around a comma are cut apart, and the comma is a token. -/
theorem tokenize_append_comma
    (text behind : String) :
    tokenize (text ++ ", " ++ behind) = tokenize text ++ "," :: tokenize behind := by
  have characters :
      (text ++ ", " ++ behind).toList = text.toList ++ ',' :: ([] ++ ' ' :: behind.toList) := by
    simp
  rw [tokenize, characters, cutTokens_append_comma, cutTokens_append_blank rfl, List.map_append,
    List.map_cons]
  rfl

/-- Texts that are joined by blanks are cut apart. -/
theorem tokenize_intercalate_blank
    (texts : List String) :
    tokenize (" ".intercalate texts) = texts.flatMap tokenize := by
  induction texts with
  | nil => decide
  | cons text rest inductionHypothesis =>
      cases rest with
      | nil => simp
      | cons next others =>
          rw [String.intercalate_cons_cons, tokenize_append_blank, inductionHypothesis]
          rfl

/-- Tokens that are joined by blanks are the tokens of the text. -/
theorem tokenize_intercalate_tokens
    {tokens : List String}
    (areTokens : ∀ token ∈ tokens, IsToken token) :
    tokenize (" ".intercalate tokens) = tokens := by
  have cutIntoThemselves : tokens.map tokenize = tokens.map fun token => [token] :=
    List.map_congr_left areTokens
  rw [tokenize_intercalate_blank, List.flatMap_def, cutIntoThemselves, ← List.flatMap_def,
    List.flatMap_singleton']

/-- Blanks in front are cut away. -/
theorem cutTokens_dropWhile_isBlank
    (characters : List Char) :
    cutTokens [] (characters.dropWhile isBlank) = cutTokens [] characters := by
  induction characters with
  | nil => rfl
  | cons character rest inductionHypothesis =>
      by_cases blank : isBlank character = true
      · rw [List.dropWhile_cons_of_pos blank, inductionHypothesis, cutTokens, if_pos blank]
        rfl
      · rw [List.dropWhile_cons_of_neg blank]

/-- Blanks at the end are cut away. -/
theorem cutTokens_dropBlankEnd
    (characters : List Char) :
    cutTokens word (dropBlankEnd characters) = cutTokens word characters := by
  induction characters using List.reverseRecOn with
  | nil => rfl
  | append_singleton front last inductionHypothesis =>
      by_cases blank : isBlank last = true
      · have shorter : dropBlankEnd (front ++ [last]) = dropBlankEnd front := by
          simp [dropBlankEnd, blank]
        rw [shorter, inductionHypothesis, cutTokens_append_blank blank]
        exact (List.append_nil _).symm
      · have same : dropBlankEnd (front ++ [last]) = front ++ [last] := by
          simp [dropBlankEnd, blank]
        rw [same]

/-- A trimmed text has the tokens of the text. -/
theorem tokenize_trimmed
    (text : String) :
    tokenize (trimmed text) = tokenize text := by
  rw [tokenize, trimmed, String.toList_ofList, trimBlanks, cutTokens_dropBlankEnd,
    cutTokens_dropWhile_isBlank, tokenize]

end IntentPolicy
