import IntentPolicy.Command.Line
import IntentPolicy.Proofs.Sentence.Tokens

namespace IntentPolicy

/-!
# Nothing is lost between tokens

The tokens of a text, put together, are its characters in lower case without the blanks.
Where a text is cut at blanks, by its writer or by a shell, the same tokens come out.
-/

variable {word characters blanks behind : List Char}

/-- A word that has been read is flushed whole. -/
theorem flatten_flushWord
    (word : List Char) :
    (flushWord word).flatten = word := by
  cases word with
  | nil => rfl
  | cons first rest => exact List.append_nil _

/-- Every character but a blank goes into a token, in lower case and in its place. -/
theorem flatten_cutTokens :
    (cutTokens word characters).flatten =
      word ++ (characters.filter (!isBlank ·)).flatMap lowerCase := by
  -- The word that has been begun is what the induction carries along.
  induction characters generalizing word with
  | nil => rw [cutTokens, flatten_flushWord, List.filter_nil, List.flatMap_nil, List.append_nil]
  | cons character rest inductionHypothesis =>
      rw [cutTokens]
      by_cases blank : isBlank character = true
      · have dropped :
            (character :: rest).filter (!isBlank ·) = rest.filter (!isBlank ·) :=
          List.filter_cons_of_neg (by simp [blank])
        rw [if_pos blank, List.flatten_append, flatten_flushWord, inductionHypothesis, dropped,
          List.nil_append]
      · have kept :
            (character :: rest).filter (!isBlank ·) = character :: rest.filter (!isBlank ·) :=
          List.filter_cons_of_pos (by simpa using blank)
        rw [if_neg blank, kept, List.flatMap_cons]
        by_cases comma : character = ','
        · have commaStays : lowerCase ',' = [','] := by decide
          rw [if_pos comma, List.flatten_append, flatten_flushWord, List.flatten_cons,
            inductionHypothesis, comma, commaStays, List.nil_append]
        · rw [if_neg comma, inductionHypothesis, List.append_assoc]

/-- Blanks in front of a text are no part of a token. -/
theorem cutTokens_blanks_append
    (areBlank : ∀ blank ∈ blanks, isBlank blank = true) :
    cutTokens [] (blanks ++ behind) = cutTokens [] behind := by
  induction blanks with
  | nil => rfl
  | cons blank others inductionHypothesis =>
      rw [List.cons_append, cutTokens, if_pos (areBlank blank List.mem_cons_self)]
      apply inductionHypothesis
      intro other member
      exact areBlank other (List.mem_cons_of_mem blank member)

/-- Texts around blanks are cut apart, however many blanks there are and of whatever kind. -/
theorem tokenize_append_blanks
    {text blanks behind : String}
    (someBlank : blanks ≠ "")
    (areBlank : isAllBlank blanks = true) :
    tokenize (text ++ blanks ++ behind) = tokenize text ++ tokenize behind := by
  have allBlank : ∀ blank ∈ blanks.toList, isBlank blank = true :=
    List.all_eq_true.mp areBlank
  obtain ⟨blank, others, parts⟩ : ∃ blank others, blanks.toList = blank :: others := by
    apply List.exists_cons_of_ne_nil
    simpa using someBlank
  rw [parts, List.forall_mem_cons] at allBlank
  have characters :
      (text ++ blanks ++ behind).toList =
        text.toList ++ blank :: (others ++ behind.toList) := by
    simp [parts]
  rw [tokenize, characters, cutTokens_append_blank allBlank.1,
    cutTokens_blanks_append allBlank.2, List.map_append]
  rfl

/-- The tokens of a text put together, character by character. -/
theorem toList_join_tokenize
    (text : String) :
    (String.join (tokenize text)).toList =
      (text.toList.filter (!isBlank ·)).flatMap lowerCase := by
  have sameCharacters (token : List Char) : (String.ofList token).toList = token :=
    String.toList_ofList
  rw [String.toList_join, tokenize, List.flatMap_map]
  simp only [sameCharacters]
  rw [List.flatMap_id', flatten_cutTokens, List.nil_append]

/-- A token is a comma, or a word without a blank or a comma in it. -/
theorem comma_or_word_of_mem_tokenize
    {text token : String}
    (member : token ∈ tokenize text) :
    token = "," ∨ token ≠ "" ∧
      ∀ character ∈ token.toList, isBlank character = false ∧ character ≠ ',' := by
  obtain ⟨characters, cut, rfl⟩ := List.mem_map.mp member
  rcases settled_of_mem_cutTokens (by simp) cut with rfl | ⟨notEmpty, settled⟩
  · exact Or.inl rfl
  · right
    refine ⟨by simpa using notEmpty, ?_⟩
    rw [String.toList_ofList]
    intro character inToken
    exact ⟨(settled character inToken).1, (settled character inToken).2.1⟩

/-- The tokens of a sentence are those of the words that it is put together from. -/
theorem tokenize_sentence
    (words : List String) :
    tokenize (CommandLine.sentence words) = words.flatMap tokenize :=
  tokenize_intercalate_blank words

/--
The tokens of a text lose nothing of it but blanks and letter case, and are words or commas.
Blanks cut a text into parts with tokens of their own, also where a shell cuts it into words;
and tokens that are written apart are read back.
-/
theorem tokens_lose_nothing
    (text : String) :
    (String.join (tokenize text)).toList =
        (text.toList.filter (!isBlank ·)).flatMap lowerCase ∧
      (∀ token ∈ tokenize text, token = "," ∨ token ≠ "" ∧
        ∀ character ∈ token.toList, isBlank character = false ∧ character ≠ ',') ∧
      (∀ blanks behind : String, blanks ≠ "" → isAllBlank blanks = true →
        tokenize (text ++ blanks ++ behind) = tokenize text ++ tokenize behind ∧
        ∀ earlier later : List String,
          tokenize (CommandLine.sentence (earlier ++ (text ++ blanks ++ behind) :: later)) =
            tokenize (CommandLine.sentence (earlier ++ text :: behind :: later))) ∧
      tokenize (" ".intercalate (tokenize text)) = tokenize text := by
  refine ⟨toList_join_tokenize text, fun token => comma_or_word_of_mem_tokenize, ?_, ?_⟩
  · intro blanks behind someBlank areBlank
    have cutApart : tokenize (text ++ blanks ++ behind) = tokenize text ++ tokenize behind :=
      tokenize_append_blanks someBlank areBlank
    refine ⟨cutApart, fun earlier later => ?_⟩
    simp only [tokenize_sentence, List.flatMap_append, List.flatMap_cons, cutApart,
      List.append_assoc]
  · apply tokenize_intercalate_tokens
    intro token member
    exact isToken_of_mem_tokenize member

/-- A letter whose lower case is two characters, a comma without blanks, and a wide blank. -/
theorem tokens_lose_nothing_around_wide_blank :
    let text := "For \u0130da,Bob"
    let blanks := "\u3000\n"
    blanks ≠ "" ∧ isAllBlank blanks = true ∧
      (String.join (tokenize text)).toList = "fori\u0307da,bob".toList ∧
      tokenize (text ++ blanks ++ "SELECT eos") =
        ["for", "i\u0307da", ",", "bob", "select", "eos"] ∧
      tokenize (CommandLine.sentence ["parse", text ++ blanks ++ "SELECT eos"]) =
        tokenize (CommandLine.sentence ["parse", text, "SELECT eos"]) := by
  intro text blanks
  have someBlank : blanks ≠ "" := by decide
  have areBlank : isAllBlank blanks = true := by decide
  obtain ⟨together, -, apart, -⟩ := tokens_lose_nothing text
  obtain ⟨cutApart, inSentence⟩ := apart blanks "SELECT eos" someBlank areBlank
  refine ⟨someBlank, areBlank, ?_, ?_, inSentence ["parse"] []⟩
  · rw [together]
    decide +kernel
  · rw [cutApart]
    decide +kernel

end IntentPolicy
