import IntentPolicy.Intent.Basic
import IntentPolicy.Policy.Basic
import IntentPolicy.Policy.Rate

namespace IntentPolicy

/-!
# From an intent to policies

An intent becomes one policy per user, all alike but for the user.  Amounts are
converted into the canonical currency, and a filter raises its criterion to a baseline.
-/

/-- What a filter raises its criterion to. -/
structure Baselines where
  minTxRate : UInt32 := 4
  maxTxCost : Decimal := .one
  minPopularity : Double := .ofRatio false 1 2
  minStability : Double := .ofRatio false 1 2
  deriving DecidableEq

/-- Why an intent has no policies. -/
inductive TranslationError where
  | noUser
  | noSelection
  | thresholdWithoutInterval
  | emptyPool
  | unknownCurrency (currency : Currency)
  | thresholdOverflow (amount : Decimal) (currency : Currency)
  deriving DecidableEq

/-- The wording of the error. -/
def TranslationError.message : TranslationError → String
  | .noUser => "intent names no user"
  | .noSelection => "intent selects neither a blockchain nor a profile"
  | .thresholdWithoutInterval => "threshold requires an interval"
  | .emptyPool => "blockchain pool cannot be empty"
  | .unknownCurrency currency => RateTable.unknownMessage currency
  | .thresholdOverflow amount currency =>
      s!"threshold {amount.text} {currency.code} overflows when converted to the canonical currency"

/-- Refuse intents that no accepted sentence asks for. -/
def Intent.checkComplete (intent : Intent) : Except TranslationError Unit :=
  if intent.users.isEmpty then .error .noUser
  else if intent.blockchain.isNone && intent.profile.isNone then .error .noSelection
  else if intent.threshold.isSome && intent.interval.isNone then .error .thresholdWithoutInterval
  else .ok ()

/-- An amount in the canonical currency. -/
def RateTable.toCanonical (rates : RateTable) (amount : Decimal) :
    Option Currency → Except TranslationError Decimal
  | none => .ok amount.normalize
  | some currency =>
      if currency = .canonical then .ok amount.normalize
      else
        match rates.rateFor? currency with
        | none => .error (.unknownCurrency currency)
        | some rate =>
            match amount.mul? rate with
            | some converted => .ok converted.normalize
            | none => .error (.thresholdOverflow amount currency)

/-- The threshold of an intent in the canonical currency, zero when it has none. -/
def RateTable.canonicalThreshold (rates : RateTable) (intent : Intent) :
    Except TranslationError Decimal :=
  match intent.threshold with
  | some amount => rates.toCanonical amount intent.currency
  | none => .ok .zero

/-- The blockchains that an intent admits, none listed when it admits all. -/
def Intent.admittedPool (intent : Intent) : Except TranslationError (WordSet Blockchain) :=
  match intent.blockchain with
  | some blockchain => .ok (.ofList [blockchain])
  | none =>
      if !intent.whitelist.isEmpty then .ok intent.whitelist
      else if intent.blacklist.isEmpty then .ok .empty
      else if intent.blacklist.complement.isEmpty then .error .emptyPool
      else .ok intent.blacklist.complement

/-- Raise one criterion of a policy to its baseline. -/
def Baselines.raise (baselines : Baselines) (policy : Policy) : Filter → Policy
  | .privateChain => { policy with chainType := .privateChain }
  | .publicChain => { policy with chainType := .publicChain }
  | .fast => { policy with minTxRate := baselines.minTxRate }
  | .cheap => { policy with maxTxCost := baselines.maxTxCost }
  | .stable => { policy with minStability := baselines.minStability }
  | .popular => { policy with minPopularity := baselines.minPopularity }

/-- The policy of an intent before its filters are applied and without a user. -/
def Intent.basePolicy (intent : Intent) (threshold : Decimal) (pool : WordSet Blockchain) :
    Policy :=
  let markers := (intent.timeframe.map Timeframe.markers).getD (.anyTime, .anyTime)
  { costProfile := (intent.profile.map Profile.costProfile).getD .economic
    timeframeStart := markers.1
    timeframeEnd := markers.2
    interval := (intent.interval.map Interval.policyInterval).getD .unbounded
    threshold := threshold
    pool := pool
    splitTransactions := decide (Modifier.splitting ∈ intent.modifiers)
    encryption := decide (Modifier.encryption ∈ intent.modifiers)
    redundancy := decide (Modifier.redundancy ∈ intent.modifiers) }

/-- What an intent is translated with. -/
structure Translator where
  rates : RateTable
  baselines : Baselines

namespace Translator

/-- The policy that every user of an intent gets. -/
def template (translator : Translator) (intent : Intent) : Except TranslationError Policy := do
  let threshold ← translator.rates.canonicalThreshold intent
  let pool ← intent.admittedPool
  return intent.filters.toList.foldl translator.baselines.raise (intent.basePolicy threshold pool)

/-- The users of an intent in the order of their first mention. -/
def distinctUsers : List String → List String
  | [] => []
  | user :: rest => user :: (distinctUsers rest).filter (· != user)

/-- The policies of an intent, one per user in the order of their first mention. -/
def translate (translator : Translator) (intent : Intent) :
    Except TranslationError (List Policy) := do
  intent.checkComplete
  let template ← translator.template intent
  return (distinctUsers intent.users).map fun user => { template with user := user }

end Translator

end IntentPolicy
