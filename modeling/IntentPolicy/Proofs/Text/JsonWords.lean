import IntentPolicy.Proofs.Sentence.Words
import IntentPolicy.Store.Row

namespace IntentPolicy

/-!
# Lists of words in JSON

An array of words without marks is read back from its compact text, and so is a pool of
blockchains.
-/

namespace Json

/-- A word that stands in quotes as it is. -/
def IsPlainWord (word : String) : Prop :=
  ∀ character ∈ word.toList, character ≠ '"' ∧ character ≠ '\\' ∧ 0x20 ≤ character.toNat

instance (word : String) : Decidable (IsPlainWord word) :=
  List.decidableBAll _ word.toList

variable {word : String} {words : List String} {characters rest : List Char}

theorem escaped_of_plain
    {character : Char}
    (notQuote : character ≠ '"')
    (notEscape : character ≠ '\\')
    (notControl : 0x20 ≤ character.toNat) :
    escaped character = [character] := by
  have apart (control : Char) (isControl : control.toNat < 0x20) : character ≠ control := by
    rintro rfl
    omega
  unfold escaped
  split
  · exact (notQuote rfl).elim
  · exact (notEscape rfl).elim
  · exact (apart '\x08' (by decide) rfl).elim
  · exact (apart '\x0c' (by decide) rfl).elim
  · exact (apart '\n' (by decide) rfl).elim
  · exact (apart '\r' (by decide) rfl).elim
  · exact (apart '\t' (by decide) rfl).elim
  · rw [if_neg (by omega)]

theorem quoted_of_plain
    (plain : IsPlainWord word) :
    quoted word = '"' :: (word.toList ++ ['"']) := by
  have unescaped {characters : List Char} (plain : ∀ character ∈ characters,
      character ≠ '"' ∧ character ≠ '\\' ∧ 0x20 ≤ character.toNat) :
      characters.flatMap escaped = characters := by
    induction characters with
    | nil => rfl
    | cons character characters inductionHypothesis =>
        obtain ⟨⟨notQuote, notEscape, notControl⟩, plainBehind⟩ := List.forall_mem_cons.mp plain
        rw [List.flatMap_cons, escaped_of_plain notQuote notEscape notControl,
          inductionHypothesis plainBehind, List.singleton_append]
  rw [quoted, unescaped plain, List.cons_append]

/-- A plain word is read up to its closing quote. -/
theorem readQuoted?_of_plain
    {bound : Nat}
    (plain : ∀ character ∈ characters,
      character ≠ '"' ∧ character ≠ '\\' ∧ 0x20 ≤ character.toNat)
    (enough : characters.length < bound) :
    readQuoted? bound (characters ++ '"' :: rest) = some (characters, rest) := by
  induction characters generalizing bound with
  | nil =>
      obtain ⟨bound, rfl⟩ := Nat.exists_eq_succ_of_ne_zero (Nat.ne_of_gt enough)
      rfl
  | cons character characters inductionHypothesis =>
      obtain ⟨⟨notQuote, notEscape, notControl⟩, plainBehind⟩ := List.forall_mem_cons.mp plain
      obtain ⟨bound, rfl⟩ :=
        Nat.exists_eq_succ_of_ne_zero (Nat.ne_of_gt (Nat.lt_of_le_of_lt (Nat.zero_le _) enough))
      have behind := inductionHypothesis plainBehind (Nat.lt_of_succ_lt_succ enough)
      have noMark : ¬ (character.toNat < 0x20 ∨ character = '\\') := by
        rintro (isControl | isEscape)
        · omega
        · exact notEscape isEscape
      rw [List.cons_append, readQuoted?.eq_5 _ _ _ notQuote
        (fun _ isEscape => (notEscape isEscape).elim)
        (fun _ _ isEscape => (notEscape isEscape).elim), if_neg noMark, behind]
      rfl

/-- A plain word in quotes is read as a text. -/
theorem readValue?_quoted
    {bound depth : Nat}
    (plain : IsPlainWord word) :
    readValue? (bound + 1) depth (quoted word ++ rest) = some (.text word, rest) := by
  have read : readQuoted? ((word.toList ++ '"' :: rest).length + 1) (word.toList ++ '"' :: rest) =
      some (word.toList, rest) := by
    apply readQuoted?_of_plain plain
    simp only [List.length_append]
    omega
  have opened : quoted word ++ rest = '"' :: (word.toList ++ '"' :: rest) := by
    rw [quoted_of_plain plain]
    simp
  have noBlank : skipBlanks (quoted word ++ rest) = '"' :: (word.toList ++ '"' :: rest) := by
    rw [opened]
    rfl
  rw [readValue?, noBlank]
  simp only [read, Option.bind_eq_bind, Option.bind_some, String.ofList_toList]
  rfl

/-- Plain words are read up to the end of their array. -/
theorem readItems?_words
    {bound depth : Nat}
    (plain : ∀ word ∈ words, IsPlainWord word)
    (someWord : words ≠ [])
    (enough : words.length < bound) :
    readItems? bound depth (commaSeparated (words.map quoted) ++ ']' :: rest) =
      some (words.map .text, rest) := by
  induction words generalizing bound with
  | nil => exact (someWord rfl).elim
  | cons word words inductionHypothesis =>
      obtain ⟨plainHere, plainBehind⟩ := List.forall_mem_cons.mp plain
      rw [List.length_cons] at enough
      obtain ⟨bound, rfl⟩ : ∃ fewer, bound = fewer + 2 := ⟨bound - 2, by omega⟩
      cases words with
      | nil =>
          rw [List.map_singleton, commaSeparated, readItems?, readValue?_quoted plainHere]
          rfl
      | cons second words =>
          have enoughBehind : (second :: words).length < bound + 1 := by omega
          have behind := inductionHypothesis plainBehind (List.cons_ne_nil _ _) enoughBehind
          let others := commaSeparated ((second :: words).map quoted) ++ ']' :: rest
          have opened : commaSeparated ((word :: second :: words).map quoted) ++ ']' :: rest =
              quoted word ++ ',' :: others := by
            simp [commaSeparated, others]
          have noBlank : skipBlanks (',' :: others) = ',' :: others := rfl
          rw [opened, readItems?, readValue?_quoted plainHere, Option.bind_eq_bind,
            Option.bind_some]
          simp only [noBlank, others, behind, Option.bind_eq_bind, Option.bind_some]
          rfl

theorem itemTexts_words
    (words : List String) :
    itemTexts (words.map .text) = words.map quoted := by
  induction words with
  | nil => rfl
  | cons word words inductionHypothesis =>
      rw [List.map_cons, itemTexts, inductionHypothesis, characters, List.map_cons]

theorem length_le_commaSeparated
    (words : List String) :
    words.length ≤ (commaSeparated (words.map quoted)).length := by
  induction words with
  | nil => exact Nat.zero_le _
  | cons word words inductionHypothesis =>
      cases words with
      | nil => simp [commaSeparated, quoted]
      | cons second words =>
          simp only [List.map_cons, commaSeparated, List.length_append, List.length_cons]
            at inductionHypothesis ⊢
          omega

/-- An array of plain words is read back from its compact text. -/
theorem ofText?_texts
    (plain : ∀ word ∈ words, IsPlainWord word) :
    ofText? (texts words).compact = some (texts words) := by
  have written : (texts words).compact.toList =
      '[' :: (commaSeparated (words.map quoted) ++ [']']) := by
    rw [compact, String.toList_ofList, texts, characters, itemTexts_words, List.cons_append]
  rw [ofText?, written]
  cases words with
  | nil => rfl
  | cons word others =>
      let items := commaSeparated ((word :: others).map quoted) ++ [']']
      have enough : (word :: others).length < 2 * ('[' :: items).length + 1 := by
        have fewer := length_le_commaSeparated (word :: others)
        simp only [items, List.length_cons, List.length_append] at fewer ⊢
        omega
      have read : readItems? (2 * ('[' :: items).length + 1) 126 items =
          some ((word :: others).map .text, []) :=
        readItems?_words plain (List.cons_ne_nil _ _) enough
      obtain ⟨behind, opening⟩ : ∃ behind, items = '"' :: behind := by
        cases others with
        | nil => exact ⟨_, rfl⟩
        | cons second words => exact ⟨_, rfl⟩
      have array : readValue? (2 * ('[' :: items).length + 2) 127 ('[' :: items) =
          some (texts (word :: others), []) := by
        have noBlank : skipBlanks ('[' :: items) = '[' :: items := rfl
        have noBlankBehind : skipBlanks items = items := by
          rw [opening]
          rfl
        rw [readValue?, noBlank]
        simp only [noBlankBehind]
        rw [opening] at read ⊢
        change (readItems? _ 126 ('"' :: behind) >>= fun _ => _) = _
        rw [read]
        rfl
      rw [array]
      rfl

end Json

/-- A pool is read back from what is stored of it. -/
theorem readPool_poolText
    (column : String)
    (pool : WordSet Blockchain) :
    readPool column (poolText pool) = .ok pool := by
  have plain : ∀ word ∈ pool.words, Json.IsPlainWord word := by
    intro word member
    obtain ⟨blockchain, -, rfl⟩ := List.mem_map.mp member
    cases blockchain <;> decide
  have known (blockchains : List Blockchain) :
      ((blockchains.map wordOf).map Json.text).mapM blockchainOfJson? = some blockchains := by
    induction blockchains with
    | nil => rfl
    | cons blockchain blockchains inductionHypothesis =>
        rw [List.map_cons, List.map_cons, List.mapM_cons, inductionHypothesis, blockchainOfJson?,
          DistinctWords.ofWord?_wordOf]
        rfl
  rw [readPool, poolText, Json.ofText?_texts plain, Json.texts]
  simp only [WordSet.words, known, WordSet.ofList_toList]

end IntentPolicy
