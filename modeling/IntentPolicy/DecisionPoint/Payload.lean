import IntentPolicy.Number.DecimalDouble
import IntentPolicy.Payload.Intent
import IntentPolicy.Policy.Basic
import IntentPolicy.Policy.TimeWindows

namespace IntentPolicy

/-!
# Policies as the decision point takes them

The policy decision point names blockchains by their tickers, writes flags as words and
takes clock times instead of markers.
-/

/-- A policy in the form that the decision point takes. -/
structure PolicyPayload where
  preferredChains : List String
  currency : String
  turingComplete : Bool
  split : Bool
  timeframeStart : String
  timeframeEnd : String
  costProfile : CostProfile
  externalId : String
  user : String
  cost : Double
  chainType : ChainType
  interval : PolicyInterval
  minTxRate : UInt32
  maxBlockTime : UInt32
  minDataSize : UInt32
  deriving Repr, DecidableEq

namespace PolicyPayload

/-- The form of a policy; a policy new to the decision point has a blank identifier. -/
def ofPolicy (windows : TimeWindows) (externalId : String) (policy : Policy) : PolicyPayload where
  preferredChains := policy.pool.toList.map Blockchain.ticker
  currency := policy.currency.code
  turingComplete := policy.turingComplete
  split := policy.splitTransactions
  timeframeStart := (windows.resolve policy.timeframeStart).text
  timeframeEnd := (windows.resolve policy.timeframeEnd).text
  costProfile := policy.costProfile
  externalId := externalId
  user := policy.user
  cost := policy.threshold.toDouble
  chainType := policy.chainType
  interval := policy.interval
  minTxRate := policy.minTxRate
  maxBlockTime := policy.maxBlockTime
  minDataSize := policy.minDataSize

/-- A flag as a word. -/
def flagWord (value : Bool) : Json :=
  .text (if value then "true" else "false")

/-- The form as JSON. -/
def json (payload : PolicyPayload) : Json :=
  .object
    [("preferredBC", .texts payload.preferredChains),
      ("currency", .text payload.currency),
      ("bcTuringComplete", flagWord payload.turingComplete),
      ("split", flagWord payload.split),
      ("timeFrameStart", .text payload.timeframeStart),
      ("timeFrameEnd", .text payload.timeframeEnd),
      ("costProfile", .text (wordOf payload.costProfile)),
      ("_id", .text payload.externalId),
      ("username", .text payload.user),
      ("cost", .real payload.cost),
      ("bcType", .text (wordOf payload.chainType)),
      ("interval", .text (wordOf payload.interval)),
      ("bcTps", .integer payload.minTxRate.toNat),
      ("bcBlockTime", .integer payload.maxBlockTime.toNat),
      ("bcDataSize", .integer payload.minDataSize.toNat)]

end PolicyPayload

end IntentPolicy
