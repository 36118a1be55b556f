import IntentPolicy.Store.Database

namespace IntentPolicy

/-!
# Images of databases

The text of a database as it is kept in a file between two commands: its rows with
their cells in the order of the columns.  A text that is no image is no database.
-/

namespace NumberCell

/-- The image of a cell; a real number is kept by its bits. -/
def image : NumberCell → Json
  | .integer value => .integer value
  | .real value => .array [.integer value.bits.toNat]
  | .text value => .text value

/-- The cell of an image. -/
def ofImage? : Json → Option NumberCell
  | .integer value => some (.integer value)
  | .array [.integer (.ofNat bits)] => some (.real ⟨.ofNat bits⟩)
  | .text value => some (.text value)
  | _ => none

end NumberCell

/-- The key of an image, which can be null. -/
def keyOfImage? : Json → Option (Option String)
  | .null => some none
  | .text value => some (some value)
  | _ => none

namespace IntentRow

/-- The image of a row. -/
def image (row : IntentRow) : Json :=
  .array (.optionalText row.id :: [row.owner, row.text, row.createdAt, row.updatedAt].map .text)

/-- The row of an image. -/
def ofImage? : Json → Option IntentRow
  | .array [id, .text owner, .text text, .text createdAt, .text updatedAt] =>
      (keyOfImage? id).map fun id => ⟨id, owner, text, createdAt, updatedAt⟩
  | _ => none

end IntentRow

namespace RecordRow

/-- The image of a row: its texts, and after them its numbers. -/
def image (row : RecordRow) : Json :=
  .array
    [.optionalText row.id,
      .texts
        [row.intentId, row.externalId, row.user, row.costProfile, row.timeframeStart,
          row.timeframeEnd, row.interval, row.currency, row.threshold, row.pool,
          row.chainType, row.maxTxCost, row.createdAt, row.updatedAt],
      .array
        ([row.splitTransactions, row.minTxRate, row.maxBlockTime, row.minDataSize,
          row.minPopularity, row.minStability, row.turingComplete, row.encryption,
          row.redundancy].map NumberCell.image)]

/-- The row of an image. -/
def ofImage? (image : Json) : Option RecordRow := do
  match image.items with
  | [id, texts, numbers] =>
      match ← texts.items.mapM Json.asText?, ← numbers.items.mapM NumberCell.ofImage? with
      | [intentId, externalId, user, costProfile, timeframeStart, timeframeEnd, interval, currency,
          threshold, pool, chainType, maxTxCost, createdAt, updatedAt],
        [splitTransactions, minTxRate, maxBlockTime, minDataSize, minPopularity, minStability,
          turingComplete, encryption, redundancy] =>
          return {
            id := ← keyOfImage? id
            intentId, externalId, user, costProfile, timeframeStart, timeframeEnd, interval
            currency, threshold, pool, chainType, maxTxCost, createdAt, updatedAt
            splitTransactions, minTxRate, maxBlockTime, minDataSize
            minPopularity, minStability, turingComplete, encryption, redundancy }
      | _, _ => none
  | _ => none

end RecordRow

namespace RateRow

/-- The image of a row. -/
def image (row : RateRow) : Json :=
  .array (.optionalText row.currency :: [row.rate, row.updatedAt].map .text)

/-- The row of an image. -/
def ofImage? : Json → Option RateRow
  | .array [currency, .text rate, .text updatedAt] =>
      (keyOfImage? currency).map fun currency => ⟨currency, rate, updatedAt⟩
  | _ => none

end RateRow

namespace Table

variable {Row : Type}

/-- The image of a table: the number of every row before the row. -/
def image (rowImage : Row → Json) (table : Table Row) : Json :=
  .array (table.numbered.map fun entry => .array [.integer entry.number, rowImage entry.row])

/-- The table of an image. -/
def ofImage? (rowOfImage? : Json → Option Row) (image : Json) : Option (Table Row) := do
  return ⟨← image.items.mapM fun entry =>
    match entry with
    | .array [.integer number, row] => (rowOfImage? row).map fun row => ⟨number, row⟩
    | _ => none⟩

end Table

namespace Database

/-- The image of a database. -/
def image : Database → Json
  | .unmigrated foreign hasHistory =>
      .object [("foreign", .texts (foreign.map wordOf)), ("history", .bool hasHistory)]
  | .migrated tables =>
      .object
        [("intents", tables.intents.image IntentRow.image),
          ("records", tables.records.image RecordRow.image),
          ("rates",
            match tables.rates with
            | some rates => rates.image RateRow.image
            | none => .null)]

/-- The database of an image. -/
def ofImage? (image : Json) : Option Database := do
  match image with
  | .object [("foreign", .array foreign), ("history", .bool hasHistory)] =>
      let tables ← foreign.mapM fun table => table.asText?.bind Vocabulary.ofWord?
      return .unmigrated tables hasHistory
  | .object [("intents", intents), ("records", records), ("rates", rates)] =>
      return .migrated {
        intents := ← Table.ofImage? IntentRow.ofImage? intents
        records := ← Table.ofImage? RecordRow.ofImage? records
        rates := ← match rates with
          | .null => some none
          | rates => (Table.ofImage? RateRow.ofImage? rates).map some }
  | _ => none

/-- The text of a database as it is kept in a file, with or without a log ahead of it. -/
def fileText (database : Database) (isLogged : Bool) : String :=
  (Json.object [("log", .bool isLogged), ("content", database.image)]).compact

/-- The database of a file, and whether it is kept with a log. -/
def ofFileText? (text : String) : Option (Database × Bool) := do
  match ← Json.ofText? text with
  | .object [("log", .bool isLogged), ("content", image)] => return (← ofImage? image, isLogged)
  | _ => none

end Database

end IntentPolicy
