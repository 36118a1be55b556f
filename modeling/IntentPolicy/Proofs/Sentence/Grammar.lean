import IntentPolicy.Sentence.Validation

namespace IntentPolicy

/-!
# The grammar of sentences

A sentence as a tree: what it names in each clause, and how it separates what it lists.
Every tree has one list of tokens and one meaning, and neither mentions the positions by
which sentences are read.
-/

/-- What stands between two items of a list. -/
inductive Separator where
  | comma
  | conjunction
  deriving Repr, DecidableEq

/-- The token of a separator. -/
def Separator.token : Separator → String
  | .comma => ","
  | .conjunction => "and"

/-- A list of at least one item, with a separator before every item but the first. -/
structure Series (Item : Type) where
  first : Item
  others : List (Separator × Item) := []
  deriving Repr, DecidableEq

namespace Series

variable {Item : Type}

/-- The items of a series in the order in which they are named. -/
def items (series : Series Item) : List Item :=
  series.first :: series.others.map (·.2)

/-- The tokens of the items behind the first. -/
def otherTokens (written : Item → String) (others : List (Separator × Item)) : List String :=
  others.flatMap fun (separator, item) => [separator.token, written item]

/-- The tokens of a series. -/
def tokens (written : Item → String) (series : Series Item) : List String :=
  written series.first :: otherTokens written series.others

end Series

/-- Which blockchains of a profile are admitted. -/
inductive PoolClause where
  | everyChain
  | only (chains : Series Blockchain)
  | without (chains : Series Blockchain)
  deriving Repr, DecidableEq

/-- What an intent selects: one blockchain, or the best by a profile. -/
inductive SelectionClause where
  | single (blockchain : Blockchain)
  | best (profile : Profile) (filters : Option (Series Filter)) (pool : PoolClause)
  deriving Repr, DecidableEq

/-- A token that is read as a threshold, with the amount that it is read as. -/
structure ThresholdToken where
  token : String
  amount : Decimal
  reads : readThreshold token = .ok amount

/-- How the costs of an intent are bounded, if they are. -/
inductive CostClause where
  | bounded (interval : Interval) (currency : Option Currency) (threshold : ThresholdToken)
  | unbounded

/-- A sentence, clause by clause. -/
structure Sentence where
  users : Series String
  timeframe : Option Timeframe
  selection : SelectionClause
  modifiers : Option (Series Modifier)
  cost : CostClause

/-- The tokens of the admitted blockchains. -/
def PoolClause.tokens : PoolClause → List String
  | .everyChain => []
  | .only chains => "from" :: chains.tokens wordOf
  | .without chains => "except" :: chains.tokens wordOf

namespace SelectionClause

/-- The tokens of a selection. -/
def tokens : SelectionClause → List String
  | .single blockchain => [wordOf blockchain]
  | .best profile filters pool =>
      "the" :: wordOf profile ::
        (filters.elim [] (·.tokens wordOf) ++ "blockchain" :: pool.tokens)

/-- The filters that a selection names. -/
def namedFilters : SelectionClause → List Filter
  | .single _ => []
  | .best _ filters _ => filters.elim [] Series.items

end SelectionClause

/-- The tokens of a bound on costs, or of its absence. -/
def CostClause.tokens : CostClause → List String
  | .bounded interval currency threshold =>
      "until" :: "the" :: wordOf interval :: "costs" :: "reach" ::
        (currency.elim [] fun currency => [wordOf currency]) ++ [threshold.token]
  | .unbounded => ["as", "default"]

namespace Sentence

/-- The tokens of a sentence. -/
def tokens (sentence : Sentence) : List String :=
  "for" :: sentence.users.tokens id
    ++ (sentence.timeframe.elim [] fun timeframe => ["in", "the", wordOf timeframe])
    ++ "select" :: sentence.selection.tokens
    ++ (sentence.modifiers.elim [] fun modifiers => "with" :: modifiers.tokens wordOf)
    ++ sentence.cost.tokens

end Sentence

/-- The filters do not name both a private and a public blockchain. -/
def AreCompatible (filters : List Filter) : Prop :=
  ¬ (Filter.privateChain ∈ filters ∧ Filter.publicChain ∈ filters)

instance (filters : List Filter) : Decidable (AreCompatible filters) :=
  inferInstanceAs (Decidable (¬ _))

/-- The filters of a list that a profile does not imply. -/
def Profile.recordedFilters (profile : Profile) (named : List Filter) : WordSet Filter :=
  .ofTest fun filter => decide (filter ∈ named ∧ filter ≠ profile.impliedFilter)

/-- What a selection asks of an intent. -/
def SelectionClause.meaning : SelectionClause → Intent
  | .single blockchain => { blockchain := some blockchain }
  | .best profile filters pool =>
      { profile := some profile
        filters := profile.recordedFilters (filters.elim [] Series.items)
        whitelist := match pool with
          | .only chains => .ofList chains.items
          | _ => .empty
        blacklist := match pool with
          | .without chains => .ofList chains.items
          | _ => .empty }

/--
The intent that a sentence asks for.  A user counts where it is named first, and an
intent without a bound on its costs holds at all times.
-/
def Sentence.meaning (sentence : Sentence) : Intent :=
  let named : Intent :=
    { sentence.selection.meaning with
      users := sentence.users.items.eraseDups
      modifiers := .ofList (sentence.modifiers.elim [] Series.items) }
  match sentence.cost with
  | .bounded interval currency threshold =>
      { named with
        timeframe := sentence.timeframe
        interval := some interval
        currency := currency
        threshold := some threshold.amount }
  | .unbounded => named

end IntentPolicy
