import IntentPolicy.Store.Cell
import IntentPolicy.Text.JsonReading

namespace IntentPolicy

/-!
# Rows of the relational store

How records are laid out in rows and read back.  Amounts are kept as text with their
scale, times as text in UTC cut to microseconds, so that rows sort by time when they are
sorted by text.  A row that another program has written to may no longer be readable.
-/

/-- Read a word of a vocabulary, blanks and letter case aside. -/
def readWord {Value : Type} [Vocabulary Value] (column text : String) :
    Except DecodeFault Value :=
  match Vocabulary.ofLooseWord? text with
  | some value => .ok value
  | none => .error (.unknownValue column text)

/-- Read an amount. -/
def readAmount (column text : String) : Except DecodeFault Decimal :=
  match Decimal.ofText text with
  | .ok amount => .ok amount
  | .error error => .error (.badDecimal column error)

/-- Read a time. -/
def readTime (column text : String) : Except DecodeFault Instant :=
  match Instant.ofText? text with
  | some instant => .ok instant
  | none => .error (.badTime column)

/-- Read a key; a null, which only another program can have written, reads as the empty text. -/
def readKey (key : Option String) : String :=
  key.getD ""

/-- A blockchain in a list: its word, or an object that maps the word to null. -/
def blockchainOfJson? : Json → Option Blockchain
  | .text word => Vocabulary.ofWord? word
  | .object [(word, .null)] => Vocabulary.ofWord? word
  | _ => none

/-- Read a pool of blockchains. -/
def readPool (column text : String) : Except DecodeFault (WordSet Blockchain) :=
  match Json.ofText? text with
  | some (.array items) =>
      match items.mapM blockchainOfJson? with
      | some blockchains => .ok (.ofList blockchains)
      | none => .error (.badPool column)
  | _ => .error (.badPool column)

/-- A pool of blockchains as it is stored. -/
def poolText (pool : WordSet Blockchain) : String :=
  (Json.texts pool.words).compact

/-- A real number as it is stored, which a NaN cannot be. -/
def storedReal (column : String) (number : Double) : Except DatabaseFault NumberCell :=
  if number.isNaN then .error (.notNull column) else .ok (.real number.unsignedZero)

/-- Created earlier, or at the same time under a key that is not greater; a null key is least. -/
def isOlderRow (left right : String × Option String) : Bool :=
  decide (left.1 < right.1) ||
    (left.1 == right.1 &&
      match left.2, right.2 with
      | none, _ => true
      | some _, none => false
      | some left, some right => decide (left ≤ right))

/-- A row of the table of intents. -/
structure IntentRow where
  id : Option String
  owner : String
  text : String
  createdAt : String
  updatedAt : String
  deriving Repr, DecidableEq

namespace IntentRow

/-- The row of an intent. -/
def ofRecord (intent : IntentRecord) : IntentRow :=
  ⟨some intent.id, intent.owner, intent.text, intent.createdAt.microsecondText,
    intent.updatedAt.microsecondText⟩

/-- The intent of a row. -/
def read (row : IntentRow) : Except DecodeFault IntentRecord := do
  return ⟨readKey row.id, row.owner, row.text, ← readTime "created_at" row.createdAt,
    ← readTime "updated_at" row.updatedAt⟩

/-- The row that replaces a row of the same key: the time of creation is kept. -/
def replacing (row old : IntentRow) : IntentRow :=
  { row with createdAt := old.createdAt }

/-- The columns of the table. -/
def columns : List (Column IntentRow) :=
  [.key "id" fun value row => { row with id := value },
    .text "owner" fun value row => { row with owner := value },
    .text "text" fun value row => { row with text := value },
    .text "created_at" fun value row => { row with createdAt := value },
    .text "updated_at" fun value row => { row with updatedAt := value }]

end IntentRow

/-- A row of the table of policy records. -/
structure RecordRow where
  id : Option String
  intentId : String
  externalId : String
  user : String
  costProfile : String
  timeframeStart : String
  timeframeEnd : String
  interval : String
  currency : String
  threshold : String
  splitTransactions : NumberCell
  pool : String
  chainType : String
  minTxRate : NumberCell
  maxBlockTime : NumberCell
  minDataSize : NumberCell
  maxTxCost : String
  minPopularity : NumberCell
  minStability : NumberCell
  turingComplete : NumberCell
  encryption : NumberCell
  redundancy : NumberCell
  createdAt : String
  updatedAt : String
  deriving Repr, DecidableEq

namespace RecordRow

/-- The row of a record; a policy with a NaN has none. -/
def ofRecord (record : PolicyRecord) : Except DatabaseFault RecordRow := do
  let policy := record.policy
  let costProfile ← storedWord CostProfile "cost_profile" (wordOf policy.costProfile)
  let chainType ← storedWord ChainType "blockchain_type" (wordOf policy.chainType)
  let minPopularity ← storedReal "min_popularity" policy.minPopularity
  let minStability ← storedReal "min_stability" policy.minStability
  return {
    id := some record.id
    intentId := record.intentId
    externalId := record.externalId
    user := policy.user
    costProfile := costProfile
    timeframeStart := wordOf policy.timeframeStart
    timeframeEnd := wordOf policy.timeframeEnd
    interval := wordOf policy.interval
    currency := wordOf policy.currency
    threshold := policy.threshold.text
    splitTransactions := .ofFlag policy.splitTransactions
    pool := poolText policy.pool
    chainType := chainType
    minTxRate := .ofCount policy.minTxRate
    maxBlockTime := .ofCount policy.maxBlockTime
    minDataSize := .ofCount policy.minDataSize
    maxTxCost := policy.maxTxCost.text
    minPopularity := minPopularity
    minStability := minStability
    turingComplete := .ofFlag policy.turingComplete
    encryption := .ofFlag policy.encryption
    redundancy := .ofFlag policy.redundancy
    createdAt := record.createdAt.microsecondText
    updatedAt := record.updatedAt.microsecondText }

/-- The policy of a row; the first column that cannot be read is blamed. -/
def readPolicy (row : RecordRow) : Except DecodeFault Policy := do
  return {
    user := row.user
    costProfile := ← readWord "cost_profile" row.costProfile
    timeframeStart := ← readWord "timeframe_start" row.timeframeStart
    timeframeEnd := ← readWord "timeframe_end" row.timeframeEnd
    interval := ← readWord "cost_interval" row.interval
    currency := ← readWord "currency" row.currency
    threshold := ← readAmount "threshold" row.threshold
    splitTransactions := ← row.splitTransactions.readFlag "split_txs"
    pool := ← readPool "blockchain_pool" row.pool
    chainType := ← readWord "blockchain_type" row.chainType
    minTxRate := ← row.minTxRate.readCount "min_tx_rate"
    maxBlockTime := ← row.maxBlockTime.readCount "max_block_time"
    minDataSize := ← row.minDataSize.readCount "min_data_size"
    maxTxCost := ← readAmount "max_tx_cost" row.maxTxCost
    minPopularity := ← row.minPopularity.readReal "min_popularity"
    minStability := ← row.minStability.readReal "min_stability"
    turingComplete := ← row.turingComplete.readFlag "turing_complete"
    encryption := ← row.encryption.readFlag "encryption"
    redundancy := ← row.redundancy.readFlag "redundancy" }

/-- The record of a row. -/
def read (row : RecordRow) : Except DecodeFault PolicyRecord := do
  let policy ← row.readPolicy
  let createdAt ← readTime "created_at" row.createdAt
  let updatedAt ← readTime "updated_at" row.updatedAt
  return ⟨readKey row.id, row.intentId, row.externalId, policy, createdAt, updatedAt⟩

/-- The row that replaces a row of the same key: its intent and time of creation are kept. -/
def replacing (row old : RecordRow) : RecordRow :=
  { row with intentId := old.intentId, createdAt := old.createdAt }

/-- The columns of the table. -/
def columns : List (Column RecordRow) :=
  [.key "id" fun value row => { row with id := value },
    .text "intent_id" fun value row => { row with intentId := value },
    .text "external_id" fun value row => { row with externalId := value },
    .text "username" fun value row => { row with user := value },
    .word CostProfile "cost_profile" fun value row => { row with costProfile := value },
    .text "timeframe_start" fun value row => { row with timeframeStart := value },
    .text "timeframe_end" fun value row => { row with timeframeEnd := value },
    .text "cost_interval" fun value row => { row with interval := value },
    .text "currency" fun value row => { row with currency := value },
    .text "threshold" fun value row => { row with threshold := value },
    .integer "split_txs" fun value row => { row with splitTransactions := value },
    .text "blockchain_pool" fun value row => { row with pool := value },
    .word ChainType "blockchain_type" fun value row => { row with chainType := value },
    .integer "min_tx_rate" fun value row => { row with minTxRate := value },
    .integer "max_block_time" fun value row => { row with maxBlockTime := value },
    .integer "min_data_size" fun value row => { row with minDataSize := value },
    .text "max_tx_cost" fun value row => { row with maxTxCost := value },
    .real "min_popularity" fun value row => { row with minPopularity := value },
    .real "min_stability" fun value row => { row with minStability := value },
    .integer "turing_complete" fun value row => { row with turingComplete := value },
    .integer "encryption" fun value row => { row with encryption := value },
    .integer "redundancy" fun value row => { row with redundancy := value },
    .text "created_at" fun value row => { row with createdAt := value },
    .text "updated_at" fun value row => { row with updatedAt := value }]

end RecordRow

/-- A row of the table of conversion rates. -/
structure RateRow where
  currency : Option String
  rate : String
  updatedAt : String
  deriving Repr, DecidableEq

namespace RateRow

/-- The row of a rate. -/
def ofRate (rate : ConversionRate) : RateRow :=
  ⟨some (wordOf rate.currency), rate.rate.text, rate.updatedAt.microsecondText⟩

/-- The rate of a row. -/
def read (row : RateRow) : Except DecodeFault ConversionRate := do
  return ⟨← readWord "currency" (readKey row.currency), ← readAmount "rate" row.rate,
    ← readTime "updated_at" row.updatedAt⟩

/-- The columns of the table. -/
def columns : List (Column RateRow) :=
  [.key "currency" fun value row => { row with currency := value },
    .text "rate" fun value row => { row with rate := value },
    .text "updated_at" fun value row => { row with updatedAt := value }]

end RateRow

end IntentPolicy
