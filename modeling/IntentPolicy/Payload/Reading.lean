import IntentPolicy.Payload.Policy
import IntentPolicy.Policy.TimeWindows
import IntentPolicy.Policy.Translation

namespace IntentPolicy

/-!
# Reading intents, policies and records from JSON

A field that is left out has its default, a field of another kind of value than the
model has is refused, and fields of other names are passed over.
-/

namespace Json

/-- The values of the items of an array, each read in one way. -/
def readList? {Value : Type} (read : Json → Option Value) : Json → Option (List Value)
  | .array items => items.mapM read
  | _ => none

/-- The value of a field, or its default where the field is left out. -/
def readField? {Value : Type} (object : Json) (name : String) (fallback : Value)
    (read : Json → Option Value) : Option Value :=
  if (fieldsNamed name object.fields).isEmpty then some fallback else read (object.field name)

/-- The value of a field that may be null. -/
def readNullable? {Value : Type} (object : Json) (name : String) (read : Json → Option Value) :
    Option (Option Value) :=
  match object.field name with
  | .null => some none
  | value => (read value).map some

/-- A value by its word. -/
def readKnownWord? {Value : Type} [Vocabulary Value] (value : Json) : Option Value :=
  value.asText?.bind Vocabulary.ofWord?

/-- A set of values by their words. -/
def readWordSet? {Value : Type} [DecidableEq Value] [Vocabulary Value] (value : Json) :
    Option (WordSet Value) :=
  (readList? readKnownWord? value).map WordSet.ofList

/-- A currency by its code. -/
def readCode? (value : Json) : Option Currency :=
  value.asText?.bind fun text => Vocabulary.all.find? (Currency.code · == text)

/-- A double; an integer stands for the double nearest to it. -/
def readDouble? : Json → Option Double
  | .real value => some value
  | .integer value => some (.ofInt value)
  | _ => none

/-- A double, or one of the words for values that no digits denote. -/
def readDoubleOrWord? : Json → Option Double
  | .text value => Double.ofText? value.toList
  | value => readDouble? value

/-- A decimal by its text or as a number; a double counts as its shortest text. -/
def readDecimal? : Json → Option Decimal
  | .text value => Decimal.ofText? value
  | .integer value => Decimal.ofText? (toString value)
  | .real value => Decimal.ofText? (String.ofList value.shortestText)
  | _ => none

/-- A decimal of a policy, in which zero has no sign. -/
def readUnsignedZero? (value : Json) : Option Decimal :=
  (readDecimal? value).map fun amount => .signed amount.negative amount.toMagnitude

/-- A count of 32 bits. -/
def readCount? (value : Json) : Option UInt32 :=
  value.asNat?.bind fun count => if count < twoTo 32 then some (.ofNat count) else none

/-- A time by its text. -/
def readInstant? (value : Json) : Option Instant :=
  value.asText?.bind Instant.ofLooseText?

/-- A time of day by its text `HH:MM:SS`. -/
def readClock? (value : Json) : Option ClockTime :=
  value.asText?.bind ClockTime.ofLongText?

end Json

open Json

/-- Read an intent. -/
def Intent.ofPayload? (payload : Json) : Option Intent := do
  return {
    users := ← payload.readField? "users" [] (readList? asText?)
    timeframe := ← payload.readNullable? "timeframe" readKnownWord?
    blockchain := ← payload.readNullable? "blockchain" readKnownWord?
    profile := ← payload.readNullable? "profile" readKnownWord?
    filters := ← payload.readField? "filters" .empty readWordSet?
    whitelist := ← payload.readField? "whitelist" .empty readWordSet?
    blacklist := ← payload.readField? "blacklist" .empty readWordSet?
    modifiers := ← payload.readField? "modifiers" .empty readWordSet?
    interval := ← payload.readNullable? "interval" readKnownWord?
    currency := ← payload.readNullable? "currency" readCode?
    threshold := ← payload.readNullable? "threshold" readDecimal? }

/-- Read a policy. -/
def Policy.ofPayload? (payload : Json) : Option Policy := do
  let fallback : Policy := {}
  return {
    user := ← payload.readField? "user" fallback.user asText?
    costProfile := ← payload.readField? "cost_profile" fallback.costProfile readKnownWord?
    timeframeStart := ← payload.readField? "timeframe_start" fallback.timeframeStart readKnownWord?
    timeframeEnd := ← payload.readField? "timeframe_end" fallback.timeframeEnd readKnownWord?
    interval := ← payload.readField? "interval" fallback.interval readKnownWord?
    currency := ← payload.readField? "currency" fallback.currency readCode?
    threshold := ← payload.readField? "threshold" fallback.threshold readUnsignedZero?
    splitTransactions := ← payload.readField? "split_txs" fallback.splitTransactions asBool?
    pool := ← payload.readField? "blockchain_pool" fallback.pool readWordSet?
    chainType := ← payload.readField? "blockchain_type" fallback.chainType readKnownWord?
    minTxRate := ← payload.readField? "min_tx_rate" fallback.minTxRate readCount?
    maxBlockTime := ← payload.readField? "max_block_time" fallback.maxBlockTime readCount?
    minDataSize := ← payload.readField? "min_data_size" fallback.minDataSize readCount?
    maxTxCost := ← payload.readField? "max_tx_cost" fallback.maxTxCost readUnsignedZero?
    minPopularity := ← payload.readField? "min_popularity" fallback.minPopularity readDouble?
    minStability := ← payload.readField? "min_stability" fallback.minStability readDouble?
    turingComplete := ← payload.readField? "turing_complete" fallback.turingComplete asBool?
    encryption := ← payload.readField? "encryption" fallback.encryption asBool?
    redundancy := ← payload.readField? "redundancy" fallback.redundancy asBool? }

/-- Read the record of an intent. -/
def IntentRecord.ofPayload? (payload : Json) : Option IntentRecord := do
  return ⟨← (payload.field "id").asText?, ← (payload.field "owner").asText?,
    ← (payload.field "text").asText?, ← readInstant? (payload.field "created_at"),
    ← readInstant? (payload.field "updated_at")⟩

/-- Read the record of a policy; a record that was never updated may leave that time out. -/
def PolicyRecord.ofPayload? (payload : Json) : Option PolicyRecord := do
  let createdAt ← readInstant? (payload.field "created_at")
  return ⟨← (payload.field "id").asText?, ← (payload.field "intent_id").asText?,
    ← (payload.field "external_id").asText?, ← Policy.ofPayload? (payload.field "policy"),
    createdAt, (← payload.readNullable? "updated_at" readInstant?).getD createdAt⟩

/-- Read rates by currency; of two names of one currency the last in their order counts. -/
def RateTable.ofPayload? (payload : Json) : Option RateTable := do
  let entries ← (sortedTexts (payload.fields.map (·.1))).mapM fun name => do
    return (← Currency.ofText? name, ← readDecimal? (payload.field name))
  return .ofList entries

/-- Read the baselines of filters. -/
def Baselines.ofPayload? (payload : Json) : Option Baselines := do
  let fallback : Baselines := {}
  return {
    minTxRate := ← payload.readField? "min_tx_rate" fallback.minTxRate readCount?
    maxTxCost := ← payload.readField? "max_tx_cost" fallback.maxTxCost readDecimal?
    minPopularity :=
      ← payload.readField? "min_popularity" fallback.minPopularity readDoubleOrWord?
    minStability := ← payload.readField? "min_stability" fallback.minStability readDoubleOrWord? }

/-- Read when the parts of the day begin. -/
def TimeWindows.ofPayload? (payload : Json) : Option TimeWindows := do
  let fallback : TimeWindows := {}
  return {
    dayStart := ← payload.readField? "day_start" fallback.dayStart readClock?
    afternoonStart := ← payload.readField? "afternoon_start" fallback.afternoonStart readClock?
    nightStart := ← payload.readField? "night_start" fallback.nightStart readClock? }

end IntentPolicy
