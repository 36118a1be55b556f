import IntentPolicy.Intent.WordSet
import IntentPolicy.Number.Decimal
import IntentPolicy.Number.Double

namespace IntentPolicy

/-!
# Policies

What is enforced for one user.  Two policies agree when all their values are equal as
numbers, so a policy with a NaN agrees with none.
-/

/-- What is enforced for one user; an empty pool admits every blockchain. -/
structure Policy where
  user : String := ""
  costProfile : CostProfile := .economic
  timeframeStart : TimeMarker := .anyTime
  timeframeEnd : TimeMarker := .anyTime
  interval : PolicyInterval := .unbounded
  currency : Currency := .canonical
  threshold : Decimal := .zero
  splitTransactions : Bool := false
  pool : WordSet Blockchain := .empty
  chainType : ChainType := .indifferent
  minTxRate : UInt32 := 4
  maxBlockTime : UInt32 := 600
  minDataSize : UInt32 := 20
  maxTxCost : Decimal := .zero
  minPopularity : Double := .zero
  minStability : Double := .zero
  turingComplete : Bool := false
  encryption : Bool := false
  redundancy : Bool := false
  deriving DecidableEq

namespace Policy

instance : Inhabited Policy := ⟨{}⟩

/-- The policy bounds no costs. -/
def isDefault (policy : Policy) : Bool :=
  policy.interval == .unbounded

/-- The policy that has to exist for a user before any bounded one. -/
def baselineFor (user : String) : Policy :=
  { user := user, costProfile := .performance }

/-- The two policies are equal in every value, numbers compared as numbers. -/
def agrees (left right : Policy) : Bool :=
  left.user == right.user &&
    left.costProfile == right.costProfile &&
    left.timeframeStart == right.timeframeStart &&
    left.timeframeEnd == right.timeframeEnd &&
    left.interval == right.interval &&
    left.currency == right.currency &&
    left.threshold.sameValue right.threshold &&
    left.splitTransactions == right.splitTransactions &&
    left.pool == right.pool &&
    left.chainType == right.chainType &&
    left.minTxRate == right.minTxRate &&
    left.maxBlockTime == right.maxBlockTime &&
    left.minDataSize == right.minDataSize &&
    left.maxTxCost.sameValue right.maxTxCost &&
    left.minPopularity.sameValue right.minPopularity &&
    left.minStability.sameValue right.minStability &&
    left.turingComplete == right.turingComplete &&
    left.encryption == right.encryption &&
    left.redundancy == right.redundancy

end Policy

end IntentPolicy
