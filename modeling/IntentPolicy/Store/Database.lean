import IntentPolicy.Store.Memory
import IntentPolicy.Store.Row
import IntentPolicy.Store.Table

namespace IntentPolicy

/-!
# The relational store

Three tables that one migration makes.  A record belongs to an intent, which has to be
there when the record is first saved and takes its records along when it is deleted.
Saving a row under a key that is held keeps the time of creation, and for a record its
intent.  Where another program has made a table of the same name beforehand, the
migration cannot index it, or has to leave it as it is.
-/

/-- The tables of the store. -/
inductive StoreTable where
  | intent
  | policyRecord
  | conversionRate
  deriving Repr, DecidableEq

instance : Vocabulary StoreTable where
  all := [.intent, .policyRecord, .conversionRate]
  word
    | .intent => "intent"
    | .policyRecord => "policy_record"
    | .conversionRate => "conversion_rate"
  mem_all value := by cases value <;> decide

/-- The rows of the store; no rates where a table of another shape stands in their place. -/
structure Tables where
  intents : Table IntentRow := {}
  records : Table RecordRow := {}
  rates : Option (Table RateRow) := some {}
  deriving Repr, DecidableEq

/-- A database before and after its migration.  Once a migration has been tried it keeps a
history of migrations. -/
inductive Database where
  | unmigrated (foreign : List StoreTable) (hasHistory : Bool)
  | migrated (tables : Tables)
  deriving Repr, DecidableEq

/-- Why a migration failed: on its own account, or before or behind it. -/
inductive MigrationError where
  | failed (fault : DatabaseFault)
  | hindered (fault : DatabaseFault)
  deriving Repr, DecidableEq

/-- The wording of the error. -/
def MigrationError.message : MigrationError → String
  | .failed fault =>
      s!"while executing migration 1: error returned from database: {fault.message}"
  | .hindered fault =>
      s!"while executing migrations: error returned from database: {fault.message}"

namespace Tables

/-- The row of an intent. -/
def findIntent (tables : Tables) (id : String) : Option IntentRow :=
  tables.intents.rows.find? (·.id == some id)

/-- The rows of an owner's intents, oldest first. -/
def intentsOf (tables : Tables) (owner : String) : List IntentRow :=
  (tables.intents.rows.filter (·.owner == owner)).mergeSort fun left right =>
    isOlderRow (left.createdAt, left.id) (right.createdAt, right.id)

/-- Save the row of an intent. -/
def saveIntent (tables : Tables) (row : IntentRow) : Tables :=
  if tables.intents.rows.any (·.id == row.id) then
    { tables with
      intents := tables.intents.map fun old => if old.id == row.id then row.replacing old else old }
  else { tables with intents := tables.intents.insert row }

/-- Delete an intent and its records. -/
def deleteIntent (tables : Tables) (id : String) : Tables :=
  { tables with
    intents := tables.intents.filter (·.id != some id)
    records := tables.records.filter (·.intentId != id) }

/-- The row of a record. -/
def findRecord (tables : Tables) (id : String) : Option RecordRow :=
  tables.records.rows.find? (·.id == some id)

/-- The rows of an intent's records, oldest first. -/
def recordsOf (tables : Tables) (intentId : String) : List RecordRow :=
  (tables.records.rows.filter (·.intentId == intentId)).mergeSort fun left right =>
    isOlderRow (left.createdAt, left.id) (right.createdAt, right.id)

/-- Save the row of a record, whose intent has to be there when the row is new. -/
def saveRecord (tables : Tables) (row : RecordRow) : Except DatabaseFault Tables :=
  if tables.records.rows.any (·.id == row.id) then
    .ok { tables with
      records := tables.records.map fun old => if old.id == row.id then row.replacing old else old }
  else if (tables.findIntent row.intentId).isSome then
    .ok { tables with records := tables.records.insert row }
  else .error .foreignKey

/-- Delete a record. -/
def deleteRecord (tables : Tables) (id : String) : Tables :=
  { tables with records := tables.records.filter (·.id != some id) }

/-- Delete the records of an intent. -/
def deleteRecords (tables : Tables) (intentId : String) : Tables :=
  { tables with records := tables.records.filter (·.intentId != intentId) }

/-- Save a row among rates. -/
def saveRate (rates : Table RateRow) (row : RateRow) : Table RateRow :=
  if rates.rows.any (·.currency == row.currency) then
    rates.map fun old => if old.currency == row.currency then row else old
  else rates.insert row

/-- Rates in the order of their currencies. -/
def sortedRates (rates : Table RateRow) : List RateRow :=
  rates.rows.mergeSort fun left right => isOlderRow ("", left.currency) ("", right.currency)

end Tables

namespace Database

/-- A database without tables. -/
def empty : Database := .unmigrated [] false

instance : Inhabited Database := ⟨empty⟩

/-- A database fresh from its migration. -/
def fresh : Database := .migrated {}

/-- Apply the migration unless it has been applied. -/
def migrate : Database → Except MigrationError Database
  | .migrated tables => .ok (.migrated tables)
  | .unmigrated foreign _ =>
      if .intent ∈ foreign then .error (.failed (.missingColumn "owner"))
      else if .policyRecord ∈ foreign then .error (.failed (.missingColumn "intent_id"))
      else if .conversionRate ∈ foreign then .ok (.migrated { rates := none })
      else .ok fresh

/-- The migration has been applied. -/
def isMigrated : Database → Bool
  | .migrated _ => true
  | .unmigrated .. => false

/-- A migration has been tried. -/
def hasHistory : Database → Bool
  | .migrated _ => true
  | .unmigrated _ hasHistory => hasHistory

/-- Take note that a migration is tried. -/
def withHistory : Database → Database
  | .migrated tables => .migrated tables
  | .unmigrated foreign _ => .unmigrated foreign true

/-- Revert the migration if it has been applied. -/
def revert : Database → Database
  | .migrated _ => .unmigrated [] true
  | .unmigrated foreign _ => .unmigrated foreign true

/-- The fault of using a table that the migration has not made. -/
def unmigratedFault (foreign : List StoreTable) (table : StoreTable) (column : String) :
    DatabaseFault :=
  if table ∈ foreign then .missingColumn column else .missingTable (wordOf table)

/-- The tables, when a table other than that of the rates is to be used. -/
def tables (database : Database) (table : StoreTable) : Except DatabaseFault Tables :=
  match database with
  | .migrated tables => .ok tables
  | .unmigrated foreign _ => .error (unmigratedFault foreign table "id")

/-- The table of rates, with the tables around it. -/
def rateTable (database : Database) : Except DatabaseFault (Table RateRow × Tables) :=
  match database with
  | .migrated tables =>
      match tables.rates with
      | some rates => .ok (rates, tables)
      | none => .error (.missingColumn "currency")
  | .unmigrated foreign _ => .error (unmigratedFault foreign .conversionRate "currency")

/-- A fault of the database as an error of the store. -/
def faulty {Value : Type} (result : Except DatabaseFault Value) : Except StoreError Value :=
  result.mapError .database

/-- A fault of a row as an error of the store. -/
def readable {Value : Type} (result : Except DecodeFault Value) : Except StoreError Value :=
  result.mapError .decode

/-- Change the tables of the database. -/
def update {Value : Type} (table : StoreTable)
    (change : Tables → Except StoreError (Value × Tables)) :
    Action Database StoreError Value :=
  changing fun database => do
    let tables ← faulty (database.tables table)
    let (value, changed) ← change tables
    return (value, .migrated changed)

/-- The relational store as repositories. -/
def repositories : Repositories Database where
  findIntent id := answering fun database => do
    match (← faulty (database.tables .intent)).findIntent id with
    | some row => return some (← readable row.read)
    | none => return none
  listIntents owner := answering fun database => do
    let tables ← faulty (database.tables .intent)
    readable ((tables.intentsOf owner).mapM IntentRow.read)
  saveIntent intent := update .intent fun tables => .ok ((), tables.saveIntent (.ofRecord intent))
  deleteIntent id := update .intent fun tables =>
    .ok ((tables.findIntent id).isSome, tables.deleteIntent id)
  listRecords intentId := answering fun database => do
    let tables ← faulty (database.tables .policyRecord)
    readable ((tables.recordsOf intentId).mapM RecordRow.read)
  saveRecord record := update .policyRecord fun tables => do
    let row ← faulty (RecordRow.ofRecord record)
    return ((), ← faulty (tables.saveRecord row))
  deleteRecord id := update .policyRecord fun tables =>
    if (tables.findRecord id).isSome then .ok ((), tables.deleteRecord id)
    else .error (.recordNotFound id)
  deleteRecords intentId := update .policyRecord fun tables =>
    .ok ((tables.recordsOf intentId).length, tables.deleteRecords intentId)
  findRate currency := answering fun database => do
    let (rates, _) ← faulty database.rateTable
    match rates.rows.find? (·.currency == some (wordOf currency)) with
    | some row => return some (← readable row.read).rate
    | none => return none
  saveRate rate := changing fun database => do
    let (rates, tables) ← faulty database.rateTable
    return ((), .migrated { tables with rates := some (Tables.saveRate rates (.ofRate rate)) })
  listRates := answering fun database => do
    let (rates, _) ← faulty database.rateTable
    readable ((Tables.sortedRates rates).mapM RateRow.read)

end Database

end IntentPolicy
