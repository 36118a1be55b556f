import IntentPolicy.Policy.Rate
import IntentPolicy.Policy.Record
import IntentPolicy.Reconciliation.Enforcement

namespace IntentPolicy

/-!
# Repositories

What the service asks of a store of intents, policy records and rates, and the ways in
which a store can fail.  A store works on a state of its own choice.
-/

/-- Why a database did not carry out a statement. -/
inductive DatabaseFault where
  | foreignKey
  | notNull (column : String)
  | check (constraint : String)
  | unique (column : String)
  | numberTaken (number : Int)
  | mismatch
  | missingTable (table : String)
  | missingColumn (column : String)
  | readOnly
  deriving Repr, DecidableEq

/-- The wording of the fault. -/
def DatabaseFault.message : DatabaseFault → String
  | .foreignKey => "FOREIGN KEY constraint failed"
  | .notNull column => s!"NOT NULL constraint failed: {column}"
  | .check constraint => s!"CHECK constraint failed: {constraint}"
  | .unique column => s!"UNIQUE constraint failed: {column}"
  | .numberTaken _ => "UNIQUE constraint failed: rowid"
  | .mismatch => "datatype mismatch"
  | .missingTable table => s!"no such table: {table}"
  | .missingColumn column => s!"no such column: {column}"
  | .readOnly => "attempt to write a readonly database"

/-- Why a stored value of a column cannot be read. -/
inductive DecodeFault where
  | unknownValue (column value : String)
  | badDecimal (column : String) (error : DecimalError)
  | badPool (column : String)
  | badTime (column : String)
  | outOfRange (column : String) (value : Int)
  | wrongType (column : String)
  deriving Repr, DecidableEq

/-- The wording of the fault. -/
def DecodeFault.message : DecodeFault → String
  | .unknownValue column value => s!"{column}: unknown value '{value}'"
  | .badDecimal column error => s!"{column}: {error.message}"
  | .badPool column => s!"{column}: not a list of blockchains"
  | .badTime column => s!"{column}: input contains invalid characters"
  | .outOfRange column value => s!"{column}: {value} is out of range"
  | .wrongType column => s!"error occurred while decoding column \"{column}\": mismatched types"

/-- Why a store did not do what it was asked to. -/
inductive StoreError where
  | database (fault : DatabaseFault)
  | decode (fault : DecodeFault)
  | recordNotFound (id : String)
  deriving Repr, DecidableEq

/-- The wording of the error. -/
def StoreError.message : StoreError → String
  | .database fault => s!"database error: error returned from database: {fault.message}"
  | .decode fault => s!"decode error: {fault.message}"
  | .recordNotFound id => s!"policy record {id} not found"

/-- What a store offers. -/
structure Repositories (State : Type) where
  findIntent : String → Action State StoreError (Option IntentRecord)
  listIntents : String → Action State StoreError (List IntentRecord)
  saveIntent : IntentRecord → Action State StoreError Unit
  deleteIntent : String → Action State StoreError Bool
  listRecords : String → Action State StoreError (List PolicyRecord)
  saveRecord : PolicyRecord → Action State StoreError Unit
  deleteRecord : String → Action State StoreError Unit
  deleteRecords : String → Action State StoreError Nat
  findRate : Currency → Action State StoreError (Option Decimal)
  saveRate : ConversionRate → Action State StoreError Unit
  listRates : Action State StoreError (List ConversionRate)

/-- A part of a larger state, with the larger state rebuilt around it. -/
structure Part (Whole Piece : Type) where
  get : Whole → Piece
  set : Piece → Whole → Whole

/-- Run an action on a part of a larger state. -/
def Action.within {Whole Piece Error Value : Type} (part : Part Whole Piece)
    (action : Action Piece Error Value) : Action Whole Error Value :=
  ExceptT.mk fun whole =>
    let (result, piece) := action.run (part.get whole)
    (result, part.set piece whole)

/-- A store that lives in a part of a larger state. -/
def Repositories.within {Whole Piece : Type} (part : Part Whole Piece)
    (store : Repositories Piece) : Repositories Whole where
  findIntent id := (store.findIntent id).within part
  listIntents owner := (store.listIntents owner).within part
  saveIntent intent := (store.saveIntent intent).within part
  deleteIntent id := (store.deleteIntent id).within part
  listRecords intentId := (store.listRecords intentId).within part
  saveRecord record := (store.saveRecord record).within part
  deleteRecord id := (store.deleteRecord id).within part
  deleteRecords intentId := (store.deleteRecords intentId).within part
  findRate currency := (store.findRate currency).within part
  saveRate rate := (store.saveRate rate).within part
  listRates := store.listRates.within part

/-- A store of which nothing is changed. -/
def Repositories.readOnly {State : Type} (store : Repositories State) : Repositories State :=
  { store with
    saveIntent := fun _ => throw (.database .readOnly)
    deleteIntent := fun _ => throw (.database .readOnly)
    saveRecord := fun _ => throw (.database .readOnly)
    deleteRecord := fun _ => throw (.database .readOnly)
    deleteRecords := fun _ => throw (.database .readOnly)
    saveRate := fun _ => throw (.database .readOnly) }

/-- The rates of a store as a table. -/
def Repositories.rateTable {State : Type} (store : Repositories State) :
    Action State StoreError RateTable := do
  let rates ← store.listRates
  return .ofList (rates.map fun rate => (rate.currency, rate.rate))

end IntentPolicy
