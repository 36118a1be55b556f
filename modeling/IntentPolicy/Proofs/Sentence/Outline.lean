import IntentPolicy.Proofs.Sentence.Parsing

namespace IntentPolicy

/-!
# The outline of a sentence

A sentence with any token where its threshold stands, and with filters that may conflict.  The
tokens of an outline determine all of its clauses, so a text is parsed exactly when the one
outline that it has is that of a sentence.
-/

/-- How the costs of an intent are bounded, whatever stands for the threshold. -/
inductive CostOutline where
  | bounded (interval : Interval) (currency : Option Currency) (threshold : String)
  | unbounded

/-- A sentence, clause by clause, whatever stands for the threshold. -/
structure Outline where
  users : Series String
  timeframe : Option Timeframe
  selection : SelectionClause
  modifiers : Option (Series Modifier)
  cost : CostOutline

/-- The tokens of a bound on costs, or of its absence. -/
def CostOutline.tokens : CostOutline → List String
  | .bounded interval currency threshold =>
      "until" :: "the" :: wordOf interval :: "costs" :: "reach" ::
        (currency.elim [] fun currency => [wordOf currency]) ++ [threshold]
  | .unbounded => ["as", "default"]

namespace Outline

/-- The tokens behind a selection. -/
def endingTokens (outline : Outline) : List String :=
  (outline.modifiers.elim [] fun modifiers => "with" :: modifiers.tokens wordOf)
    ++ outline.cost.tokens

/-- The tokens behind the users. -/
def selectionTokens (outline : Outline) : List String :=
  (outline.timeframe.elim [] fun timeframe => ["in", "the", wordOf timeframe])
    ++ "select" :: (outline.selection.tokens ++ outline.endingTokens)

/-- The tokens of an outline. -/
def tokens (outline : Outline) : List String :=
  "for" :: (outline.users.tokens id ++ outline.selectionTokens)

end Outline

/-- The outline of a bound, without what its threshold is read as. -/
def CostClause.outline : CostClause → CostOutline
  | .bounded interval currency threshold => .bounded interval currency threshold.token
  | .unbounded => .unbounded

/-- The outline of a sentence. -/
def Sentence.outline (sentence : Sentence) : Outline where
  users := sentence.users
  timeframe := sentence.timeframe
  selection := sentence.selection
  modifiers := sentence.modifiers
  cost := sentence.cost.outline

/-- A sentence is written as its outline. -/
theorem Sentence.tokens_outline
    (sentence : Sentence) :
    sentence.outline.tokens = sentence.tokens := by
  have sameCost : sentence.cost.outline.tokens = sentence.cost.tokens := by
    cases sentence.cost <;> rfl
  simp only [Outline.tokens, Outline.selectionTokens, Outline.endingTokens, outline, sameCost,
    tokens, List.append_assoc, List.cons_append]

/-! ## One reading -/

theorem wordOf_injective
    {Value : Type}
    [Vocabulary Value]
    [DistinctWords Value] :
    Function.Injective (wordOf : Value → String) := by
  intro left right same
  have readBack : Vocabulary.ofWord? (wordOf left) = some left := DistinctWords.ofWord?_wordOf left
  rw [same, DistinctWords.ofWord?_wordOf] at readBack
  exact (Option.some.inj readBack).symm

theorem Separator.token_injective : Function.Injective Separator.token := by
  intro left right same
  cases left <;> cases right <;> first | rfl | exact absurd same (by decide)

/-- The tokens do not begin with a separator, so a series in front of them ends there. -/
def EndsSeries (tokens : List String) : Prop :=
  ∀ separator : Separator, tokens.head? ≠ some separator.token

namespace Series

variable {Item : Type} {written : Item → String} {leftRest rightRest : List String}

/-- The items behind the first, and what follows them, are read in one way. -/
theorem otherTokens_append_injective
    (distinct : Function.Injective written)
    (leftEnds : EndsSeries leftRest)
    (rightEnds : EndsSeries rightRest)
    {left right : List (Separator × Item)}
    (same : otherTokens written left ++ leftRest = otherTokens written right ++ rightRest) :
    left = right ∧ leftRest = rightRest := by
  induction left generalizing right with
  | nil =>
      cases right with
      | nil => exact ⟨rfl, same⟩
      | cons item items =>
          have startsSeparated : leftRest.head? = some item.1.token := by
            rw [show leftRest = _ from same]
            rfl
          exact absurd startsSeparated (leftEnds item.1)
  | cons item items inductionHypothesis =>
      cases right with
      | nil =>
          have startsSeparated : rightRest.head? = some item.1.token := by
            rw [show rightRest = _ from same.symm]
            rfl
          exact absurd startsSeparated (rightEnds item.1)
      | cons other others =>
          rcases item with ⟨separator, item⟩
          rcases other with ⟨otherSeparator, other⟩
          obtain ⟨sameSeparator, behind⟩ := List.cons.inj same
          obtain ⟨sameItem, sameItems⟩ := List.cons.inj behind
          obtain ⟨rfl, rfl⟩ := inductionHypothesis sameItems
          rw [Separator.token_injective sameSeparator, distinct sameItem]
          exact ⟨rfl, rfl⟩

/-- A series, and what follows it, are read in one way. -/
theorem tokens_append_injective
    (distinct : Function.Injective written)
    (leftEnds : EndsSeries leftRest)
    (rightEnds : EndsSeries rightRest)
    {left right : Series Item}
    (same : left.tokens written ++ leftRest = right.tokens written ++ rightRest) :
    left = right ∧ leftRest = rightRest := by
  rcases left with ⟨first, items⟩
  rcases right with ⟨otherFirst, others⟩
  obtain ⟨sameFirst, behind⟩ := List.cons.inj same
  obtain ⟨rfl, sameRest⟩ := otherTokens_append_injective distinct leftEnds rightEnds behind
  obtain rfl : first = otherFirst := distinct sameFirst
  exact ⟨rfl, sameRest⟩

end Series

/-- A bound is read in one way: the number of its tokens tells whether it names a currency. -/
theorem CostOutline.tokens_injective
    {left right : CostOutline}
    (same : left.tokens = right.tokens) :
    left = right := by
  cases left with
  | unbounded =>
      cases right with
      | unbounded => rfl
      | bounded interval currency threshold => exact absurd same (by simp [tokens])
  | bounded interval currency threshold =>
      cases right with
      | unbounded => exact absurd same (by simp [tokens])
      | bounded otherInterval otherCurrency otherThreshold =>
          simp only [tokens, List.cons_append, List.cons.injEq, true_and] at same
          obtain ⟨sameInterval, sameAmount⟩ := same
          rw [wordOf_injective sameInterval]
          cases currency <;> cases otherCurrency
          case none.none =>
            obtain ⟨rfl⟩ : threshold = otherThreshold := by simpa using sameAmount
            rfl
          case some.some =>
            simp only [Option.elim, List.cons_append, List.nil_append, List.cons.injEq,
              and_true] at sameAmount
            rw [wordOf_injective sameAmount.1, sameAmount.2]
          all_goals exact absurd sameAmount (by simp)

/-- The tokens begin with a word that opens what stands behind a selection. -/
def OpensEnding (tokens : List String) : Prop :=
  tokens.head? = some "with" ∨ tokens.head? = some "until" ∨ tokens.head? = some "as"

theorem CostOutline.opensEnding_tokens
    (cost : CostOutline) :
    OpensEnding cost.tokens := by
  cases cost with
  | bounded interval currency threshold => exact Or.inr (Or.inl rfl)
  | unbounded => exact Or.inr (Or.inr rfl)

theorem Outline.opensEnding_endingTokens
    (outline : Outline) :
    OpensEnding outline.endingTokens := by
  rw [endingTokens]
  cases outline.modifiers with
  | none => exact outline.cost.opensEnding_tokens
  | some modifiers => exact Or.inl rfl

theorem OpensEnding.endsSeries
    {tokens : List String}
    (opens : OpensEnding tokens) :
    EndsSeries tokens := by
  intro separator
  rcases opens with starts | starts | starts <;> rw [starts] <;> cases separator <;> decide

theorem endsSeries_cons
    {token : String}
    {tokens : List String}
    (noSeparator : token ≠ "," ∧ token ≠ "and") :
    EndsSeries (token :: tokens) := by
  intro separator
  rw [List.head?_cons, ne_eq, Option.some.injEq]
  cases separator with
  | comma => exact noSeparator.1
  | conjunction => exact noSeparator.2

section Clauses

variable {leftRest rightRest : List String}

/-- What opens an ending lists no blockchains. -/
theorem PoolClause.eq_everyChain_of_opensEnding
    {pool : PoolClause}
    {rest : List String}
    (opens : OpensEnding (pool.tokens ++ rest)) :
    pool = .everyChain := by
  cases pool with
  | everyChain => rfl
  | only chains =>
      rcases opens with starts | starts | starts <;>
        exact absurd (Option.some.inj starts) (by decide)
  | without chains =>
      rcases opens with starts | starts | starts <;>
        exact absurd (Option.some.inj starts) (by decide)

/-- The admitted blockchains, and the ending behind them, are read in one way. -/
theorem PoolClause.tokens_append_injective
    {left right : PoolClause}
    (leftOpens : OpensEnding leftRest)
    (rightOpens : OpensEnding rightRest)
    (same : left.tokens ++ leftRest = right.tokens ++ rightRest) :
    left = right ∧ leftRest = rightRest := by
  have leftEvery (isEvery : right = .everyChain) : left = .everyChain := by
    rw [isEvery] at same
    apply eq_everyChain_of_opensEnding
    rw [same]
    exact rightOpens
  have rightEvery (isEvery : left = .everyChain) : right = .everyChain := by
    rw [isEvery] at same
    apply eq_everyChain_of_opensEnding
    rw [← same]
    exact leftOpens
  cases left <;> cases right
  case everyChain.everyChain => exact ⟨rfl, same⟩
  case only.only chains others =>
    obtain ⟨rfl, sameRest⟩ := Series.tokens_append_injective wordOf_injective
      leftOpens.endsSeries rightOpens.endsSeries (List.cons.inj same).2
    exact ⟨rfl, sameRest⟩
  case without.without chains others =>
    obtain ⟨rfl, sameRest⟩ := Series.tokens_append_injective wordOf_injective
      leftOpens.endsSeries rightOpens.endsSeries (List.cons.inj same).2
    exact ⟨rfl, sameRest⟩
  case only.without => exact absurd (List.cons.inj same).1 (by decide)
  case without.only => exact absurd (List.cons.inj same).1 (by decide)
  case everyChain.only => cases rightEvery rfl
  case everyChain.without => cases rightEvery rfl
  case only.everyChain => cases leftEvery rfl
  case without.everyChain => cases leftEvery rfl

/-- Filters are read in one way: the word behind them is no filter. -/
theorem filters_append_injective
    {left right : Option (Series Filter)}
    (same : left.elim [] (·.tokens wordOf) ++ "blockchain" :: leftRest =
      right.elim [] (·.tokens wordOf) ++ "blockchain" :: rightRest) :
    left = right ∧ leftRest = rightRest := by
  have noFilter (filter : Filter) : wordOf filter ≠ "blockchain" := by
    cases filter <;> decide
  have ends {rest : List String} : EndsSeries ("blockchain" :: rest) :=
    endsSeries_cons (by decide)
  cases left with
  | none =>
      cases right with
      | none => exact ⟨rfl, (List.cons.inj same).2⟩
      | some filters => exact absurd (List.cons.inj same).1.symm (noFilter filters.first)
  | some filters =>
      cases right with
      | none => exact absurd (List.cons.inj same).1 (noFilter filters.first)
      | some others =>
          obtain ⟨rfl, sameRest⟩ :=
            Series.tokens_append_injective wordOf_injective ends ends same
          exact ⟨rfl, (List.cons.inj sameRest).2⟩

/-- A selection, and the ending behind it, are read in one way. -/
theorem SelectionClause.tokens_append_injective
    {left right : SelectionClause}
    (leftOpens : OpensEnding leftRest)
    (rightOpens : OpensEnding rightRest)
    (same : left.tokens ++ leftRest = right.tokens ++ rightRest) :
    left = right ∧ leftRest = rightRest := by
  have noArticle (blockchain : Blockchain) : wordOf blockchain ≠ "the" := by
    cases blockchain <;> decide
  cases left with
  | single blockchain =>
      cases right with
      | single other =>
          obtain ⟨sameWord, sameRest⟩ := List.cons.inj same
          rw [wordOf_injective sameWord]
          exact ⟨rfl, sameRest⟩
      | best profile filters pool =>
          exact absurd (List.cons.inj same).1 (noArticle blockchain)
  | best profile filters pool =>
      cases right with
      | single other => exact absurd (List.cons.inj same).1.symm (noArticle other)
      | best otherProfile otherFilters otherPool =>
          simp only [tokens, List.cons_append, List.append_assoc, List.cons.injEq,
            true_and] at same
          obtain ⟨sameProfile, behindProfile⟩ := same
          obtain ⟨rfl, behindFilters⟩ := filters_append_injective behindProfile
          obtain ⟨rfl, sameRest⟩ :=
            PoolClause.tokens_append_injective leftOpens rightOpens behindFilters
          rw [wordOf_injective sameProfile]
          exact ⟨rfl, sameRest⟩

/-- A timeframe is read in one way: it stands in front of `select` or not at all. -/
theorem timeframe_append_injective
    {left right : Option Timeframe}
    (same : (left.elim [] fun timeframe => ["in", "the", wordOf timeframe])
        ++ "select" :: leftRest =
      (right.elim [] fun timeframe => ["in", "the", wordOf timeframe])
        ++ "select" :: rightRest) :
    left = right ∧ leftRest = rightRest := by
  cases left <;> cases right
  case none.none => exact ⟨rfl, (List.cons.inj same).2⟩
  case some.some =>
    simp only [Option.elim, List.cons_append, List.nil_append, List.cons.injEq,
      true_and] at same
    rw [wordOf_injective same.1]
    exact ⟨rfl, same.2⟩
  all_goals exact absurd (List.cons.inj same).1 (by decide)

end Clauses

namespace Outline

variable {left right : Outline}

theorem endingTokens_injective
    (same : left.endingTokens = right.endingTokens) :
    left.modifiers = right.modifiers ∧ left.cost = right.cost := by
  have noModifiers {cost : CostOutline} {rest : List String} :
      cost.tokens ≠ "with" :: rest := by
    cases cost <;> simp [CostOutline.tokens]
  rw [endingTokens, endingTokens] at same
  cases leftModifiers : left.modifiers <;> cases rightModifiers : right.modifiers <;>
    rw [leftModifiers, rightModifiers] at same
  case none.none => exact ⟨rfl, CostOutline.tokens_injective same⟩
  case none.some => exact absurd same noModifiers
  case some.none => exact absurd same.symm noModifiers
  case some.some =>
    obtain ⟨rfl, sameCost⟩ := Series.tokens_append_injective wordOf_injective
      left.cost.opensEnding_tokens.endsSeries right.cost.opensEnding_tokens.endsSeries
      (List.cons.inj same).2
    exact ⟨rfl, CostOutline.tokens_injective sameCost⟩

theorem endsSeries_selectionTokens
    (outline : Outline) :
    EndsSeries outline.selectionTokens := by
  rw [selectionTokens]
  cases outline.timeframe <;> exact endsSeries_cons (by decide)

/-- The tokens of an outline determine it: no text has two readings. -/
theorem tokens_injective
    (same : left.tokens = right.tokens) :
    left = right := by
  obtain ⟨sameUsers, behindUsers⟩ := Series.tokens_append_injective Function.injective_id
    left.endsSeries_selectionTokens right.endsSeries_selectionTokens (List.cons.inj same).2
  obtain ⟨sameTimeframe, behindTimeframe⟩ := timeframe_append_injective behindUsers
  obtain ⟨sameSelection, sameEnding⟩ := SelectionClause.tokens_append_injective
    left.opensEnding_endingTokens right.opensEnding_endingTokens behindTimeframe
  obtain ⟨sameModifiers, sameCost⟩ := endingTokens_injective sameEnding
  cases left
  cases right
  simp only at sameUsers sameTimeframe sameSelection sameModifiers sameCost
  rw [sameUsers, sameTimeframe, sameSelection, sameModifiers, sameCost]

end Outline

/--
A text that has an outline is parsed exactly when the outline is that of a sentence whose
filters do not conflict, and released is what this sentence means.
-/
theorem parseSentence_of_outline
    {text : String}
    {outline : Outline}
    (outlined : tokenize text = outline.tokens)
    (released : Intent) :
    parseSentence text = .ok released ↔
      ∃ sentence : Sentence, sentence.outline = outline ∧
        AreCompatible sentence.selection.namedFilters ∧ released = sentence.meaning := by
  rw [parseSentence, Parser.run_eq_ok_iff_sentence, outlined]
  constructor
  · rintro ⟨sentence, sameTokens, accepted⟩
    rw [← sentence.tokens_outline] at sameTokens
    exact ⟨sentence, (Outline.tokens_injective sameTokens).symm, accepted⟩
  · rintro ⟨sentence, rfl, accepted⟩
    exact ⟨sentence, sentence.tokens_outline, accepted⟩

end IntentPolicy
