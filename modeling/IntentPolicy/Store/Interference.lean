import IntentPolicy.Store.Database

namespace IntentPolicy

/-!
# Other programs at the database

Another program can make a table before the migration, set single values of rows, give
rows other numbers, and delete rows.  The rules of the tables bind it too: keys and
numbers stay unique, a record keeps an intent, and an intent with records keeps its key.
-/

/-- The number that a written value is as the number of a row. -/
def WrittenValue.asRowNumber : WrittenValue → Except DatabaseFault Int
  | .null => .error .mismatch
  | .integer value => .ok value
  | .text value =>
      match NumberCell.integerOfText value with
      | .integer number => .ok number
      | _ => .error .mismatch

/-- The names of columns are the same, letter case aside. -/
def sameColumnName (left right : String) : Bool :=
  left.toList.map asciiLower == right.toList.map asciiLower

/-- The names that stand for the number of a row in every table. -/
def rowNumberNames : List String := ["rowid", "oid", "_rowid_"]

namespace Table

variable {Row : Type}

/-- Write one column of the rows that are picked; keys stay unique. -/
def overwriteColumn (table : Table Row) (key : Row → Option String) (isPicked : Row → Bool)
    (target : Column Row) (value : WrittenValue) : Except DatabaseFault (Table Row) :=
  table.mapM? fun row => do
    if isPicked row then
      let written ← target.write value row
      if key written != key row && (key written).isSome
          && table.rows.any (fun other => key other == key written) then
        .error (.unique target.name)
      else return written
    else return row

/-- Write the number of the row that is picked, if there is one. -/
def overwriteNumber (table : Table Row) (isPicked : Row → Bool) (value : WrittenValue) :
    Except DatabaseFault (Table Row) := do
  if table.rows.any isPicked then
    let number ← value.asRowNumber
    match table.renumber? isPicked number with
    | some renumbered => return renumbered
    | none => .error (.numberTaken number)
  else return table

/-- Write one column of the row under a key, if there is one; the number of rows is given. -/
def overwrite (table : Table Row) (columns : List (Column Row)) (key : Row → Option String)
    (column id : String) (value : WrittenValue) : Except DatabaseFault (Nat × Table Row) := do
  let isPicked (row : Row) : Bool := key row == some id
  let count := table.rows.countP isPicked
  match columns.find? (sameColumnName ·.name column) with
  | some target => return (count, ← table.overwriteColumn key isPicked target value)
  | none =>
      if rowNumberNames.any (sameColumnName column) then
        return (count, ← table.overwriteNumber isPicked value)
      else .error (.missingColumn column)

end Table

namespace Tables

/-- Every record has its intent. -/
def recordsHaveIntents (tables : Tables) : Bool :=
  tables.records.rows.all fun record => (tables.findIntent record.intentId).isSome

/-- Refuse tables in which a record has lost its intent. -/
def checkReferences (tables : Tables) : Except DatabaseFault Tables :=
  if tables.recordsHaveIntents then .ok tables else .error .foreignKey

/-- Write one column of one row; the number of rows is given. -/
def overwrite (tables : Tables) (table : StoreTable) (column id : String)
    (value : WrittenValue) : Except DatabaseFault (Nat × Tables) := do
  match table with
  | .intent =>
      let (count, intents) ← tables.intents.overwrite IntentRow.columns (·.id) column id value
      return (count, ← checkReferences { tables with intents })
  | .policyRecord =>
      let (count, records) ← tables.records.overwrite RecordRow.columns (·.id) column id value
      return (count, ← checkReferences { tables with records })
  | .conversionRate =>
      match tables.rates with
      | none => .error (.missingColumn column)
      | some rates =>
          let (count, rates) ← rates.overwrite RateRow.columns (·.currency) column id value
          return (count, { tables with rates := some rates })

end Tables

namespace Database

/-- Another program writes one column of one row; the number of rows is given. -/
def overwrite (table : StoreTable) (column id : String) (value : WrittenValue) :
    Action Database StoreError Nat :=
  update table fun tables => faulty (tables.overwrite table column id value)

/-- Another program makes a table of its own shape unless there is one of that name. -/
def addForeignTable (table : StoreTable) : Database → Database
  | .unmigrated foreign hasHistory => .unmigrated (table :: foreign) hasHistory
  | .migrated tables => .migrated tables

/-- Another program deletes a row. -/
def deleteRow (table : StoreTable) (id : String) : Database → Database
  | .unmigrated foreign hasHistory => .unmigrated foreign hasHistory
  | .migrated tables =>
      match table with
      | .intent => .migrated (tables.deleteIntent id)
      | .policyRecord => .migrated (tables.deleteRecord id)
      | .conversionRate => .migrated tables

end Database

end IntentPolicy
