import IntentPolicy.DecisionPoint.Payload

namespace IntentPolicy

/-!
# What a posted document tells

The document that is posted to save a policy tells the identifier that the policy is saved
under and all that is enforced of the policy, in the terms of the decision point.
-/

/--
A document tells a policy under an identifier: it has a field for the identifier and one for
each value of the policy that is enforced, and no others.
-/
structure Json.Tells (document : Json) (windows : TimeWindows) (externalId : String)
    (policy : Policy) : Prop where
  identifier : document.field "_id" = .text externalId
  user : document.field "username" = .text policy.user
  chains : document.field "preferredBC" = .array (policy.pool.toList.map (.text ·.ticker))
  chainType : document.field "bcType" = .text (wordOf policy.chainType)
  costProfile : document.field "costProfile" = .text (wordOf policy.costProfile)
  currency : document.field "currency" = .text policy.currency.code
  interval : document.field "interval" = .text (wordOf policy.interval)
  cost : document.field "cost" = .real policy.threshold.toDouble
  start : document.field "timeFrameStart" = .text (windows.resolve policy.timeframeStart).text
  ending : document.field "timeFrameEnd" = .text (windows.resolve policy.timeframeEnd).text
  split : document.field "split" = .text (toString policy.splitTransactions)
  turingComplete : document.field "bcTuringComplete" = .text (toString policy.turingComplete)
  minTxRate : document.field "bcTps" = .integer policy.minTxRate.toNat
  maxBlockTime : document.field "bcBlockTime" = .integer policy.maxBlockTime.toNat
  minDataSize : document.field "bcDataSize" = .integer policy.minDataSize.toNat
  noOthers : document.fields.length = 15

namespace PolicyPayload

theorem flagWord_eq (flag : Bool) : flagWord flag = .text (toString flag) := by
  cases flag <;> rfl

/-- The form of a policy tells the policy under its identifier. -/
theorem tells_json
    (windows : TimeWindows)
    (externalId : String)
    (policy : Policy) :
    (ofPolicy windows externalId policy).json.Tells windows externalId policy where
  identifier := rfl
  user := rfl
  chains := congrArg Json.array (List.map_map ..)
  chainType := rfl
  costProfile := rfl
  currency := rfl
  interval := rfl
  cost := rfl
  start := rfl
  ending := rfl
  split := flagWord_eq policy.splitTransactions
  turingComplete := flagWord_eq policy.turingComplete
  minTxRate := rfl
  maxBlockTime := rfl
  minDataSize := rfl
  noOthers := rfl

end PolicyPayload

end IntentPolicy
