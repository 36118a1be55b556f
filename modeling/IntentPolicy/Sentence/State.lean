import IntentPolicy.Intent.Vocabulary
import IntentPolicy.Text.Sorted

namespace IntentPolicy

/-!
# Positions in a sentence

Where in a sentence the parser stands, and which words lead on from there.  A user, a
threshold and anything behind an error are free of a table.
-/

/-- A position in a sentence: what comes next, or what has just been read. -/
inductive Position where
  | start
  | user
  | afterUser
  | timeframeArticle
  | timeframe
  | select
  | selection
  | afterBlockchain
  | profile
  | profileFilters
  | filter
  | afterFilter
  | afterProfile
  | whitelist
  | afterWhitelist
  | blacklist
  | afterBlacklist
  | modifier
  | afterModifier
  | intervalArticle
  | interval
  | costs
  | reach
  | currency
  | threshold
  | costBounded
  | defaultKeyword
  | defaultPolicy
  | error
  deriving Repr, DecidableEq

namespace Position

/-- All positions, in the order of a sentence. -/
def all : List Position :=
  [.start, .user, .afterUser, .timeframeArticle, .timeframe, .select, .selection,
    .afterBlockchain, .profile, .profileFilters, .filter, .afterFilter, .afterProfile,
    .whitelist, .afterWhitelist, .blacklist, .afterBlacklist, .modifier, .afterModifier,
    .intervalArticle, .interval, .costs, .reach, .currency, .threshold, .costBounded,
    .defaultKeyword, .defaultPolicy, .error]

/-- The name of a position in messages. -/
def name : Position → String
  | .start => "start"
  | .user => "user"
  | .afterUser => "after_user"
  | .timeframeArticle => "timeframe_article"
  | .timeframe => "timeframe"
  | .select => "select"
  | .selection => "selection"
  | .afterBlockchain => "after_blockchain"
  | .profile => "profile"
  | .profileFilters => "profile_filters"
  | .filter => "filter"
  | .afterFilter => "after_filter"
  | .afterProfile => "after_profile"
  | .whitelist => "whitelist"
  | .afterWhitelist => "after_whitelist"
  | .blacklist => "blacklist"
  | .afterBlacklist => "after_blacklist"
  | .modifier => "modifier"
  | .afterModifier => "after_modifier"
  | .intervalArticle => "interval_article"
  | .interval => "interval"
  | .costs => "costs"
  | .reach => "reach"
  | .currency => "currency"
  | .threshold => "threshold"
  | .costBounded => "cost_bounded"
  | .defaultKeyword => "default_keyword"
  | .defaultPolicy => "default_policy"
  | .error => "error"

/-- The position with this name. -/
def ofName? (text : String) : Option Position :=
  all.find? (·.name == text)

/-- A sentence may end here. -/
def isAccepting : Position → Bool
  | .costBounded | .defaultPolicy => true
  | _ => false

/-- The next token is free rather than drawn from a table. -/
def acceptsAnyToken : Position → Bool
  | .user | .threshold | .error => true
  | _ => false

/-- All words of a vocabulary lead to one position. -/
def wordsTo (Value : Type) [Vocabulary Value] (next : Position) : List (String × Position) :=
  (Vocabulary.all : List Value).map fun value => (Vocabulary.word value, next)

/-- How a list goes on. -/
def separatorsTo (next : Position) : List (String × Position) :=
  [("and", next), (",", next)]

/-- The words that open the cost clause. -/
def costOpenings : List (String × Position) :=
  [("until", .intervalArticle), ("as", .defaultKeyword)]

/-- The words that lead on from a position, with the positions they lead to. -/
def transitions : Position → List (String × Position)
  | .start => [("for", .user)]
  | .afterUser => separatorsTo .user ++ [("in", .timeframeArticle), ("select", .selection)]
  | .timeframeArticle => [("the", .timeframe)]
  | .timeframe => wordsTo Timeframe .select
  | .select => [("select", .selection)]
  | .selection => wordsTo Blockchain .afterBlockchain ++ [("the", .profile)]
  | .profile => wordsTo Profile .profileFilters
  | .profileFilters => wordsTo Filter .afterFilter ++ [("blockchain", .afterProfile)]
  | .filter => wordsTo Filter .afterFilter
  | .afterFilter => separatorsTo .filter ++ [("blockchain", .afterProfile)]
  | .afterBlockchain => ("with", .modifier) :: costOpenings
  | .afterProfile =>
      ("from", .whitelist) :: ("except", .blacklist) :: ("with", .modifier) :: costOpenings
  | .whitelist => wordsTo Blockchain .afterWhitelist
  | .afterWhitelist => separatorsTo .whitelist ++ ("with", .modifier) :: costOpenings
  | .blacklist => wordsTo Blockchain .afterBlacklist
  | .afterBlacklist => separatorsTo .blacklist ++ ("with", .modifier) :: costOpenings
  | .modifier => wordsTo Modifier .afterModifier
  | .afterModifier => separatorsTo .modifier ++ costOpenings
  | .intervalArticle => [("the", .interval)]
  | .interval => wordsTo Interval .costs
  | .costs => [("costs", .reach)]
  | .reach => [("reach", .currency)]
  | .currency => wordsTo Currency .threshold
  | .defaultKeyword => [("default", .defaultPolicy)]
  | .user | .threshold | .costBounded | .defaultPolicy | .error => []

/-- The position that a word leads to by the table. -/
def next? (position : Position) (token : String) : Option Position :=
  (position.transitions.find? (·.1 == token)).map (·.2)

/-- The words that lead on from here, sorted. -/
def expected (position : Position) : List String :=
  sortedTexts (position.transitions.map (·.1))

end Position

end IntentPolicy
