import IntentPolicy.Intent.Basic
import IntentPolicy.Number.DecimalDouble
import IntentPolicy.Sentence.State

namespace IntentPolicy

/-!
# What a token records

Behind the tables stands what a token means: each position writes its token into the
intent, and refuses filters that cannot be combined and amounts that are no threshold.
-/

/-- Why a token cannot stand where its table admits it. -/
inductive TokenError where
  | conflictingFilters (first second : Filter)
  | invalidThreshold (token : String)
  | thresholdOutOfRange (token : String)
  | unknownValue (kind token : String)
  deriving Repr, DecidableEq

/-- The wording of the error. -/
def TokenError.message : TokenError → String
  | .conflictingFilters first second =>
      s!"filters '{wordOf first}' and '{wordOf second}' cannot be combined"
  | .invalidThreshold token =>
      s!"'{token}' is not a valid threshold, expected a non-negative number"
  | .thresholdOutOfRange token => s!"'{token}' is outside the range a threshold can hold"
  | .unknownValue kind token => s!"'{token}' is not a known {kind}"

/-- The decimal of a literal: exact where it can be, else near the double it denotes. -/
def thresholdAmount? (token : String) (approximation : Double) : Option Decimal :=
  match Decimal.ofText? token with
  | some amount => some amount
  | none =>
      match Decimal.readScientific? false token.toList with
      | some amount => some amount
      | none => Decimal.ofDouble? approximation

/-- Read a threshold: a finite literal that is not below zero. -/
def readThreshold (token : String) : Except TokenError Decimal :=
  match Double.ofText? token.toList with
  | none => .error (.invalidThreshold token)
  | some approximation =>
      if approximation.isFinite && Double.zero.le approximation then
        match thresholdAmount? token approximation with
        | some amount => .ok amount.normalize
        | none => .error (.thresholdOutOfRange token)
      else .error (.invalidThreshold token)

/-- The value that a token names. -/
def lookUp {Value : Type} [Vocabulary Value] (kind token : String) : Except TokenError Value :=
  match Vocabulary.ofWord? token with
  | some value => .ok value
  | none => .error (.unknownValue kind token)

namespace Intent

/-- Ask for a filter: nothing new if the profile implies it, an error beside its opposite. -/
def addFilter (intent : Intent) (filter : Filter) : Except TokenError Intent :=
  if intent.profile.map Profile.impliedFilter = some filter then .ok intent
  else
    let added : Intent := { intent with filters := intent.filters.insert filter }
    match filter.opposite? with
    | some opposite =>
        if opposite ∈ intent.filters then .error (.conflictingFilters .privateChain .publicChain)
        else .ok added
    | none => .ok added

/-- Forget what only bounded intents have. -/
def clearForDefault (intent : Intent) : Intent :=
  { intent with timeframe := none, interval := none, currency := none, threshold := none }

/-- Record a token that has been read at a position. -/
def record (intent : Intent) (position : Position) (token : String) :
    Except TokenError Intent :=
  match position with
  | .user => .ok (intent.addUser token)
  | .timeframe =>
      (lookUp "timeframe" token).map fun timeframe => { intent with timeframe := some timeframe }
  | .selection =>
      match (Vocabulary.ofWord? token : Option Blockchain) with
      | some blockchain => .ok { intent with blockchain := some blockchain }
      | none => .ok intent
  | .profile =>
      (lookUp "profile" token).map fun profile => { intent with profile := some profile }
  | .profileFilters | .filter =>
      match (Vocabulary.ofWord? token : Option Filter) with
      | some filter => intent.addFilter filter
      | none => .ok intent
  | .whitelist =>
      (lookUp "blockchain" token).map fun blockchain =>
        { intent with whitelist := intent.whitelist.insert blockchain }
  | .blacklist =>
      (lookUp "blockchain" token).map fun blockchain =>
        { intent with blacklist := intent.blacklist.insert blockchain }
  | .modifier =>
      (lookUp "modifier" token).map fun modifier =>
        { intent with modifiers := intent.modifiers.insert modifier }
  | .interval =>
      (lookUp "interval" token).map fun interval => { intent with interval := some interval }
  | .currency =>
      match Currency.ofText? token with
      | some currency => .ok { intent with currency := some currency }
      | none => .error (.unknownValue "currency" token)
  | .threshold =>
      (readThreshold token).map fun amount => { intent with threshold := some amount }
  | .defaultKeyword => .ok intent.clearForDefault
  | _ => .ok intent

end Intent

end IntentPolicy
