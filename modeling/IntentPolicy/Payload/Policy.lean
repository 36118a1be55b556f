import IntentPolicy.Payload.Intent
import IntentPolicy.Policy.Rate
import IntentPolicy.Policy.Record

namespace IntentPolicy

/-!
# Policies and records as JSON

Amounts and times are written by their texts, criteria between zero and one as numbers.
-/

/-- A count as JSON. -/
def countPayload (count : UInt32) : Json :=
  .integer count.toNat

/-- A policy as JSON. -/
def Policy.payload (policy : Policy) : Json :=
  .object
    [("user", .text policy.user),
      ("cost_profile", .text (wordOf policy.costProfile)),
      ("timeframe_start", .text (wordOf policy.timeframeStart)),
      ("timeframe_end", .text (wordOf policy.timeframeEnd)),
      ("interval", .text (wordOf policy.interval)),
      ("currency", .text policy.currency.code),
      ("threshold", .text policy.threshold.text),
      ("split_txs", .bool policy.splitTransactions),
      ("blockchain_pool", policy.pool.payload),
      ("blockchain_type", .text (wordOf policy.chainType)),
      ("min_tx_rate", countPayload policy.minTxRate),
      ("max_block_time", countPayload policy.maxBlockTime),
      ("min_data_size", countPayload policy.minDataSize),
      ("max_tx_cost", .text policy.maxTxCost.text),
      ("min_popularity", .real policy.minPopularity),
      ("min_stability", .real policy.minStability),
      ("turing_complete", .bool policy.turingComplete),
      ("encryption", .bool policy.encryption),
      ("redundancy", .bool policy.redundancy)]

/-- The policies of an intent as JSON. -/
def policiesPayload (policies : List Policy) : Json :=
  .array (policies.map Policy.payload)

/-- A record of an intent as JSON. -/
def IntentRecord.payload (record : IntentRecord) : Json :=
  .object
    [("id", .text record.id),
      ("owner", .text record.owner),
      ("text", .text record.text),
      ("created_at", .text record.createdAt.text),
      ("updated_at", .text record.updatedAt.text)]

/-- A record of a policy as JSON. -/
def PolicyRecord.payload (record : PolicyRecord) : Json :=
  .object
    [("id", .text record.id),
      ("intent_id", .text record.intentId),
      ("external_id", .text record.externalId),
      ("policy", record.policy.payload),
      ("created_at", .text record.createdAt.text),
      ("updated_at", .text record.updatedAt.text)]

/-- An intent and its policies as JSON. -/
def IntentView.payload (view : IntentView) : Json :=
  .object
    [("intent", view.intent.payload),
      ("policies", .array (view.policies.map PolicyRecord.payload))]

/-- A stored rate as JSON. -/
def ConversionRate.payload (rate : ConversionRate) : Json :=
  .object
    [("currency", .text rate.currency.code),
      ("rate", .text rate.rate.text),
      ("updated_at", .text rate.updatedAt.text)]

end IntentPolicy
