import IntentPolicy.Reconciliation.Plan
import IntentPolicy.Store.Repositories

namespace IntentPolicy

/-!
# The store in memory

Lists of intents, records and rates, each with one entry per key.  Saving under a key
that is held keeps the time of creation; deleting an intent leaves its records alone.
-/

/-- Intents, records and rates held in memory. -/
structure MemoryStore where
  intents : List IntentRecord := []
  records : List PolicyRecord := []
  rates : List ConversionRate := []
  deriving DecidableEq

/-- Created earlier, or at the same time with an identifier that is not greater. -/
def IntentRecord.isOlder (left right : IntentRecord) : Bool :=
  left.createdAt.lt right.createdAt ||
    (!right.createdAt.lt left.createdAt && decide (left.id ≤ right.id))

namespace MemoryStore

/-- The intent under an identifier. -/
def findIntent (store : MemoryStore) (id : String) : Option IntentRecord :=
  store.intents.find? (·.id == id)

/-- The intents of an owner, oldest first. -/
def listIntents (store : MemoryStore) (owner : String) : List IntentRecord :=
  (store.intents.filter (·.owner == owner)).mergeSort IntentRecord.isOlder

/-- Save an intent; the time of creation of a held one is kept. -/
def saveIntent (store : MemoryStore) (intent : IntentRecord) : MemoryStore :=
  let createdAt := ((store.findIntent intent.id).map (·.createdAt)).getD intent.createdAt
  { store with
    intents := store.intents.filter (·.id != intent.id) ++
      [{ intent with createdAt := createdAt }] }

/-- Delete the intent under an identifier. -/
def deleteIntent (store : MemoryStore) (id : String) : MemoryStore :=
  { store with intents := store.intents.filter (·.id != id) }

/-- The record under an identifier. -/
def findRecord (store : MemoryStore) (id : String) : Option PolicyRecord :=
  store.records.find? (·.id == id)

/-- The records of an intent, oldest first. -/
def listRecords (store : MemoryStore) (intentId : String) : List PolicyRecord :=
  oldestFirst (store.records.filter (·.intentId == intentId))

/-- Save a record; the time of creation of a held one is kept. -/
def saveRecord (store : MemoryStore) (record : PolicyRecord) : MemoryStore :=
  let createdAt := ((store.findRecord record.id).map (·.createdAt)).getD record.createdAt
  { store with
    records := store.records.filter (·.id != record.id) ++
      [{ record with createdAt := createdAt }] }

/-- Delete the record under an identifier. -/
def deleteRecord (store : MemoryStore) (id : String) : MemoryStore :=
  { store with records := store.records.filter (·.id != id) }

/-- Delete the records of an intent. -/
def deleteRecords (store : MemoryStore) (intentId : String) : MemoryStore :=
  { store with records := store.records.filter (·.intentId != intentId) }

/-- The stored rate of a currency. -/
def findRate (store : MemoryStore) (currency : Currency) : Option ConversionRate :=
  store.rates.find? (·.currency == currency)

/-- Save a rate in place of the one held for its currency. -/
def saveRate (store : MemoryStore) (rate : ConversionRate) : MemoryStore :=
  { store with rates := store.rates.filter (·.currency != rate.currency) ++ [rate] }

/-- The rates in the order of their currencies. -/
def listRates (store : MemoryStore) : List ConversionRate :=
  Vocabulary.all.filterMap store.findRate

end MemoryStore

/-- Answer from a state without changing it. -/
def answering {State Error Value : Type} (view : State → Except Error Value) :
    Action State Error Value :=
  ExceptT.mk fun state => (view state, state)

/-- Change a state, or leave it where the change fails. -/
def changing {State Error Value : Type} (change : State → Except Error (Value × State)) :
    Action State Error Value :=
  ExceptT.mk fun state =>
    match change state with
    | .ok (value, changed) => (.ok value, changed)
    | .error error => (.error error, state)

/-- The store in memory as repositories. -/
def MemoryStore.repositories : Repositories MemoryStore where
  findIntent id := answering fun store => .ok (store.findIntent id)
  listIntents owner := answering fun store => .ok (store.listIntents owner)
  saveIntent intent := changing fun store => .ok ((), store.saveIntent intent)
  deleteIntent id := changing fun store =>
    .ok ((store.findIntent id).isSome, store.deleteIntent id)
  listRecords intentId := answering fun store => .ok (store.listRecords intentId)
  saveRecord record := changing fun store => .ok ((), store.saveRecord record)
  deleteRecord id := changing fun store =>
    if (store.findRecord id).isSome then .ok ((), store.deleteRecord id)
    else .error (.recordNotFound id)
  deleteRecords intentId := changing fun store =>
    .ok ((store.listRecords intentId).length, store.deleteRecords intentId)
  findRate currency := answering fun store => .ok ((store.findRate currency).map (·.rate))
  saveRate rate := changing fun store => .ok ((), store.saveRate rate)
  listRates := answering fun store => .ok store.listRates

end IntentPolicy
