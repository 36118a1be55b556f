import IntentPolicy.Intent.Rendering
import IntentPolicy.Proofs.Intent.Agreement
import IntentPolicy.Proofs.Sentence.Canonical
import IntentPolicy.Proofs.Sentence.Parsing
import IntentPolicy.Proofs.Sentence.Tokens

namespace IntentPolicy

/-!
# The text of an intent is its canonical sentence

The text that is rendered for the meaning of a sentence has the tokens of the sentence in
its canonical form, and so an intent that has been parsed is parsed back from its text.
-/

/-- A vocabulary whose words are tokens. -/
class TokenWords (Value : Type) [Vocabulary Value] : Prop where
  isToken_wordOf : ∀ value : Value, IsToken (wordOf value)

instance : TokenWords Timeframe where
  isToken_wordOf value := by cases value <;> decide

instance : TokenWords Blockchain where
  isToken_wordOf value := by cases value <;> decide

instance : TokenWords Profile where
  isToken_wordOf value := by cases value <;> decide

instance : TokenWords Filter where
  isToken_wordOf value := by cases value <;> decide

instance : TokenWords Modifier where
  isToken_wordOf value := by cases value <;> decide

instance : TokenWords Interval where
  isToken_wordOf value := by cases value <;> decide

/-- The code of a currency is cut into its word. -/
theorem tokenize_code
    (currency : Currency) :
    tokenize currency.code = [wordOf currency] := by
  cases currency <;> decide

/-- What may open a literal is its own lower case, and neither blank nor a comma. -/
theorem IsLiteralStart.isSettled
    {character : Char}
    (start : IsLiteralStart character) :
    IsSettled character := by
  have notComma : character ≠ ',' := by
    rintro rfl
    rcases start with isMinus | isPlus | isPoint | isDigit
    · cases isMinus
    · cases isPlus
    · cases isPoint
    · cases isDigit
  have ascii : character.toNat < 0x80 := by
    rcases start with rfl | rfl | rfl | isDigit
    · decide
    · decide
    · decide
    · have atMostNine := (Char.isDigit_iff_toNat.mp isDigit).2
      exact Nat.lt_of_le_of_lt atMostNine (by decide)
  refine ⟨start.not_isBlank, notComma, ?_⟩
  rw [lowerCase]
  simp [ascii, start.asciiLower_eq]

theorem isToken_text
    {amount : Decimal}
    (unsigned : amount.negative = false) :
    IsToken amount.text := by
  obtain ⟨whole, fraction, spelling⟩ := Decimal.exists_spelling unsigned
  have characters : amount.text.toList = amount.characters := String.toList_ofList
  apply isToken_of_isSettled
  · rw [characters, spelling.characters_eq]
    simp [spelling.whole_ne_nil]
  · intro character member
    apply IsLiteralStart.isSettled
    rw [characters, spelling.characters_eq] at member
    rcases List.mem_append.mp member with inWhole | behind
    · exact Or.inr (Or.inr (Or.inr (spelling.wholeDigits character inWhole)))
    · split at behind
      · cases behind
      · rcases List.mem_cons.mp behind with isPoint | inFraction
        · exact Or.inr (Or.inr (Or.inl isPoint))
        · exact Or.inr (Or.inr (Or.inr (spelling.fractionDigits character inFraction)))

/-- Joined words are cut into the tokens of a series with commas and a final `and`. -/
theorem tokenize_joinWords
    {Item : Type}
    {written : Item → String}
    {first : Item}
    {rest : List Item}
    (areTokens : ∀ item ∈ first :: rest, IsToken (written item)) :
    tokenize (joinWords ((first :: rest).map written)) =
      (Series.joined first rest).tokens written := by
  induction rest generalizing first with
  | nil => exact areTokens first (by simp)
  | cons second others inductionHypothesis =>
      have firstToken : tokenize (written first) = [written first] :=
        areTokens first (by simp)
      have behind := inductionHypothesis fun item member =>
        areTokens item (List.mem_cons_of_mem first member)
      cases others with
      | nil =>
          have secondToken : tokenize (written second) = [written second] :=
            areTokens second (by simp)
          have separated :
              written first ++ " and " ++ written second =
                written first ++ " " ++ ("and" ++ " " ++ written second) := by
            simp [← String.toList_inj]
          change tokenize (written first ++ " and " ++ written second) = _
          rw [separated, tokenize_append_blank, tokenize_append_blank, firstToken, secondToken]
          rfl
      | cons third further =>
          change tokenize (written first ++ ", " ++ _) = _
          rw [tokenize_append_comma, firstToken]
          exact congrArg (fun tokens => written first :: "," :: tokens) behind

/-- A clause with a list is cut into its opening and the tokens of the series. -/
theorem tokenize_listClause
    {Item : Type}
    {written : Item → String}
    {opening : String}
    {items : List Item}
    (openingToken : IsToken opening)
    (areTokens : ∀ item ∈ items, IsToken (written item)) :
    (Intent.listClause opening (items.map written)).flatMap tokenize =
      (Series.ofList? items).elim [] fun series => opening :: series.tokens written := by
  cases items with
  | nil => rfl
  | cons first rest =>
      have separated := tokenize_append_blank opening (joinWords ((first :: rest).map written))
      rw [tokenize_joinWords areTokens] at separated
      change [_].flatMap tokenize = _
      rw [List.flatMap_singleton, separated, openingToken]
      rfl

/-- The words of a set are those of its members. -/
theorem tokenize_listClause_words
    {Value : Type}
    [DecidableEq Value]
    [Vocabulary Value]
    [TokenWords Value]
    {opening : String}
    (words : WordSet Value)
    (openingToken : IsToken opening) :
    (Intent.listClause opening words.words).flatMap tokenize =
      (Series.ofList? words.toList).elim [] fun series => opening :: series.tokens wordOf :=
  tokenize_listClause openingToken fun value _ => TokenWords.isToken_wordOf value

/-- The pool of a selection is cut into the tokens of the canonical pool. -/
theorem tokenize_poolClause
    (profile : Profile)
    (filters : Option (Series Filter))
    (pool : PoolClause) :
    (SelectionClause.best profile filters pool).meaning.poolClause.flatMap tokenize =
      pool.canonical.tokens := by
  cases pool with
  | everyChain => rfl
  | only chains =>
      have shown := tokenize_listClause_words (WordSet.ofList chains.items)
        (by decide : IsToken "from")
      have notEmpty : (WordSet.ofList chains.items).isEmpty = false := by
        obtain ⟨first, rest, members, -⟩ := chains.ordered_eq_joined
        rw [WordSet.isEmpty, members]
        rfl
      rw [Series.ofList?_toList] at shown
      simp only [Intent.poolClause, SelectionClause.meaning, notEmpty, Bool.false_eq_true,
        ↓reduceIte]
      exact shown
  | without chains =>
      have shown := tokenize_listClause_words (WordSet.ofList chains.items)
        (by decide : IsToken "except")
      rw [Series.ofList?_toList] at shown
      exact shown

/-- The filters of a clause are cut into the tokens of their series. -/
theorem tokenize_filters
    (filters : WordSet Filter)
    (front behind : String) :
    tokenize
        (front ++ (if filters.isEmpty then "" else " " ++ joinWords filters.words) ++ " " ++ behind) =
      tokenize front ++ (Series.ofList? filters.toList).elim [] (·.tokens wordOf) ++
        tokenize behind := by
  rw [tokenize_append_blank]
  cases shape : filters.toList with
  | nil =>
      rw [if_pos (by rw [WordSet.isEmpty, shape]; rfl)]
      simp [Series.ofList?]
  | cons first rest =>
      have words : filters.words = (first :: rest).map wordOf := by
        rw [WordSet.words, shape]
      rw [if_neg (by rw [WordSet.isEmpty, shape]; simp), words, ← String.append_assoc,
        tokenize_append_blank, tokenize_joinWords fun filter _ => TokenWords.isToken_wordOf filter]
      rfl

/-- A selection is cut into the tokens of the canonical selection. -/
theorem tokenize_selectionClause
    (selection : SelectionClause) :
    (selection.meaning.selectionClause ++ selection.meaning.poolClause).flatMap tokenize =
      "select" :: selection.canonical.tokens := by
  cases selection with
  | single blockchain =>
      have cut := tokenize_append_blank "select" (wordOf blockchain)
      rw [TokenWords.isToken_wordOf blockchain] at cut
      change [_].flatMap tokenize = _
      rw [List.flatMap_singleton]
      exact cut
  | best profile filters pool =>
      have cut := tokenize_append_blank "select the" (wordOf profile)
      rw [TokenWords.isToken_wordOf profile] at cut
      have separated (clause : String) :
          "select the " ++ wordOf profile ++ clause ++ " blockchain" =
            "select the" ++ " " ++ wordOf profile ++ clause ++ " " ++ "blockchain" := by
        simp [← String.toList_inj]
      rw [List.flatMap_append, tokenize_poolClause]
      change [_].flatMap tokenize ++ _ = _
      rw [List.flatMap_singleton, separated, tokenize_filters, cut]
      simp only [List.append_assoc]
      rfl

/-- A bound on costs is cut into its words, whatever stands for the currency. -/
theorem tokenize_bound
    {currencyClause : String}
    {currencyTokens : List String}
    (interval : Interval)
    (threshold : ThresholdToken)
    (cut : tokenize ("costs reach" ++ currencyClause) = "costs" :: "reach" :: currencyTokens) :
    tokenize
        ("until the " ++ wordOf interval ++ " costs reach" ++ currencyClause ++ " " ++
          threshold.amount.text) =
      "until" :: "the" :: wordOf interval :: "costs" :: "reach" :: currencyTokens ++
        [threshold.amount.text] := by
  have thresholdToken : tokenize threshold.amount.text = [threshold.amount.text] :=
    isToken_text (not_negative_of_readThreshold threshold.reads)
  have opening := tokenize_append_blank "until the" (wordOf interval)
  rw [TokenWords.isToken_wordOf interval] at opening
  have separated :
      "until the " ++ wordOf interval ++ " costs reach" ++ currencyClause ++ " " ++
          threshold.amount.text =
        "until the" ++ " " ++ wordOf interval ++ " " ++ ("costs reach" ++ currencyClause) ++ " " ++
          threshold.amount.text := by
    simp [← String.toList_inj]
  rw [separated, tokenize_append_blank, tokenize_append_blank, opening, cut, thresholdToken]
  rfl

/-- The bound on costs is cut into the tokens of the canonical bound. -/
theorem tokenize_costClause
    (sentence : Sentence) :
    tokenize sentence.meaning.costClause = sentence.cost.canonical.tokens := by
  cases cost : sentence.cost with
  | unbounded =>
      have noBound : sentence.meaning.costClause = "as default" := by
        rw [Intent.costClause, Sentence.meaning, cost]
        cases sentence.selection <;> rfl
      rw [noBound]
      rfl
  | bounded interval currency threshold =>
      have normal := Decimal.normalize_of_readThreshold threshold.reads
      cases currency with
      | none =>
          have withoutCode : tokenize ("costs reach" ++ "") = "costs" :: "reach" :: [] := by
            decide
          simp only [Intent.costClause, Sentence.meaning, cost, Option.getD_some, normal]
          exact tokenize_bound interval threshold withoutCode
      | some currency =>
          have withCode : tokenize ("costs reach" ++ (" " ++ currency.code)) =
              "costs" :: "reach" :: [wordOf currency] := by
            rw [← String.append_assoc, tokenize_append_blank, tokenize_code]
            rfl
          simp only [Intent.costClause, Sentence.meaning, cost, Option.getD_some, normal]
          exact tokenize_bound interval threshold withCode

/-- The canonical sentence is what the rendered meaning of a sentence is cut into. -/
theorem tokenize_render_meaning
    {sentence : Sentence}
    (usersAreTokens : ∀ user ∈ sentence.users.items, IsToken user) :
    tokenize sentence.meaning.render = sentence.canonical.tokens := by
  have users :
      (Intent.listClause "for" sentence.users.items.eraseDups).flatMap tokenize =
        "for" :: sentence.users.distinct.tokens id := by
    have areTokens : ∀ user ∈ sentence.users.items.eraseDups, IsToken (id user) :=
      fun user member => usersAreTokens user (List.mem_eraseDups.mp member)
    have cut := tokenize_listClause (by decide : IsToken "for") areTokens
    rw [List.map_id] at cut
    rw [cut, Series.items, List.eraseDups_cons]
    rfl
  have modifiers := tokenize_listClause_words
    (WordSet.ofList (sentence.modifiers.elim [] Series.items)) (by decide : IsToken "with")
  have inTimeframe (timeframe : Timeframe) :
      tokenize ("in the " ++ wordOf timeframe) = ["in", "the", wordOf timeframe] := by
    have cut := tokenize_append_blank "in the" (wordOf timeframe)
    rw [TokenWords.isToken_wordOf timeframe] at cut
    exact cut
  have sameTimeframe : sentence.canonical.timeframe = sentence.meaning.timeframe := by
    simp only [Sentence.meaning, Sentence.canonical]
    cases sentence.cost <;> cases sentence.selection <;> rfl
  have sameClauses :
      sentence.meaning.users = sentence.users.items.eraseDups ∧
      sentence.meaning.modifiers = .ofList (sentence.modifiers.elim [] Series.items) ∧
      sentence.meaning.selectionClause = sentence.selection.meaning.selectionClause ∧
      sentence.meaning.poolClause = sentence.selection.meaning.poolClause := by
    rw [Sentence.meaning]
    cases sentence.cost <;> exact ⟨rfl, rfl, rfl, rfl⟩
  obtain ⟨sameUsers, sameModifiers, sameSelection, samePool⟩ := sameClauses
  have selection := tokenize_selectionClause sentence.selection
  rw [List.flatMap_append] at selection
  rw [Intent.render, tokenize_intercalate_blank, sameUsers, sameModifiers, sameSelection, samePool]
  simp only [List.flatMap_append, List.flatMap_singleton, List.append_assoc]
  rw [users, modifiers, tokenize_costClause,
    ← List.append_assoc (sentence.selection.meaning.selectionClause.flatMap tokenize), selection,
    Sentence.tokens, sameTimeframe]
  cases sentence.meaning.timeframe with
  | none => simp [Sentence.canonical]
  | some timeframe => simp [inTimeframe, Sentence.canonical]

/-- The users that a text names are among its tokens. -/
theorem mem_tokens_of_mem_users
    {sentence : Sentence}
    {user : String}
    (named : user ∈ sentence.users.items) :
    user ∈ sentence.tokens := by
  have inSeries : user ∈ sentence.users.tokens id := by
    rcases List.mem_cons.mp named with isFirst | isOther
    · rw [isFirst]
      exact List.mem_cons_self ..
    · obtain ⟨⟨separator, other⟩, listed, rfl⟩ := List.mem_map.mp isOther
      apply List.mem_cons_of_mem
      exact List.mem_flatMap.mpr ⟨(separator, other), listed, by simp⟩
  simp [Sentence.tokens, inSeries]

/-- An intent that has been parsed is parsed back from its own text. -/
theorem parseSentence_render
    {text : String}
    {intent : Intent}
    (parsed : parseSentence text = .ok intent) :
    parseSentence intent.render = .ok intent := by
  obtain ⟨sentence, tokensEq, compatible, rfl⟩ := Parser.run_eq_ok_iff_sentence.mp parsed
  have usersAreTokens : ∀ user ∈ sentence.users.items, IsToken user := by
    intro user named
    apply isToken_of_mem_tokenize
    rw [tokensEq]
    exact mem_tokens_of_mem_users named
  apply Parser.run_eq_ok_iff_sentence.mpr
  exact ⟨sentence.canonical, tokenize_render_meaning usersAreTokens,
    SelectionClause.areCompatible_canonical compatible, sentence.meaning_canonical.symm⟩

theorem Intent.agrees_self
    (intent : Intent) :
    intent.agrees intent = true :=
  agrees_with_users fun _ => Iff.rfl

/--
The text of an intent that has been parsed is parsed to an intent that asks for the same,
with the same users in the same order, and that is rendered as the same text.
-/
theorem parseSentence_render_agrees
    {text : String}
    {intent : Intent}
    (parsed : parseSentence text = .ok intent) :
    ∃ again, parseSentence intent.render = .ok again ∧ again.agrees intent = true ∧
      again.users = intent.users ∧ again.render = intent.render :=
  ⟨intent, parseSentence_render parsed, intent.agrees_self, rfl, rfl⟩

/-- A user may be named like a word of the language, and what is implied is left out. -/
theorem parseSentence_render_agrees_cheapest :
    ∃ intent,
      parseSentence
          ("For Alice, in and ALICE select the cheapest cheap and private blockchain " ++
            "except eos until the daily costs reach usd 1.50") = .ok intent ∧
        intent.render =
          "for alice and in select the cheapest private blockchain " ++
            "except eos until the daily costs reach USD 1.5" ∧
        ∃ again, parseSentence intent.render = .ok again ∧ again.agrees intent = true ∧
          again.users = intent.users ∧ again.render = intent.render := by
  let intent : Intent :=
    { users := ["alice", "in"]
      profile := some .cheapest
      filters := .ofList [.privateChain]
      blacklist := .ofList [.eos]
      interval := some .daily
      currency := some .usd
      threshold := some ⟨⟨15, 1, by decide, by decide⟩, false⟩ }
  have parsed :
      parseSentence
          ("For Alice, in and ALICE select the cheapest cheap and private blockchain " ++
            "except eos until the daily costs reach usd 1.50") = .ok intent := by
    decide +kernel
  exact ⟨intent, parsed, by decide +kernel, parseSentence_render_agrees parsed⟩

end IntentPolicy
