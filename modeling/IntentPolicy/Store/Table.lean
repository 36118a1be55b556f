import IntentPolicy.Number.Digits

namespace IntentPolicy

/-!
# Tables

A table keeps its rows in the order of their numbers.  A new row goes behind all others,
and a row whose number another program changes moves to the place of its new number.
-/

/-- A row and its number in a table. -/
structure NumberedRow (Row : Type) where
  number : Int
  row : Row
  deriving Repr, DecidableEq

/-- Rows in the order of their numbers. -/
structure Table (Row : Type) where
  numbered : List (NumberedRow Row) := []
  deriving Repr, DecidableEq

/-- The greatest number that a row can have. -/
def greatestRowNumber : Int := twoTo 63 - 1

namespace Table

variable {Row : Type}

/-- The rows in the order of their numbers. -/
def rows (table : Table Row) : List Row :=
  table.numbered.map (·.row)

/-- A row has the number. -/
def hasNumber (table : Table Row) (number : Int) : Bool :=
  table.numbered.any (·.number == number)

/-- The least positive number that no row has. -/
def freeNumber (table : Table Row) : Int :=
  let candidates := (List.range (table.numbered.length + 1)).map fun index => Int.ofNat (index + 1)
  (candidates.find? fun number => !table.hasNumber number).getD 1

/-- The number of the next new row: one above the last, or a free one where that is no number. -/
def nextNumber (table : Table Row) : Int :=
  match table.numbered.getLast? with
  | none => 1
  | some last => if last.number < greatestRowNumber then last.number + 1 else table.freeNumber

/-- Put a row in the place of its number, behind all smaller ones. -/
def place (table : Table Row) (numbered : NumberedRow Row) : Table Row :=
  let isBefore (other : NumberedRow Row) : Bool := other.number < numbered.number
  ⟨table.numbered.takeWhile isBefore ++ numbered :: table.numbered.dropWhile isBefore⟩

/-- Add a new row. -/
def insert (table : Table Row) (row : Row) : Table Row :=
  table.place ⟨table.nextNumber, row⟩

/-- Change every row in its place. -/
def map (change : Row → Row) (table : Table Row) : Table Row :=
  ⟨table.numbered.map fun entry => { entry with row := change entry.row }⟩

/-- Change every row in its place, unless one of the changes fails. -/
def mapM? {Error : Type} (change : Row → Except Error Row) (table : Table Row) :
    Except Error (Table Row) := do
  return ⟨← table.numbered.mapM fun entry => do
    return { entry with row := ← change entry.row }⟩

/-- The rows that are kept. -/
def filter (keep : Row → Bool) (table : Table Row) : Table Row :=
  ⟨table.numbered.filter fun entry => keep entry.row⟩

/-- Give a number to the row that is picked, if there is one and no other row has the number. -/
def renumber? (table : Table Row) (isPicked : Row → Bool) (number : Int) : Option (Table Row) :=
  match table.numbered.find? fun entry => isPicked entry.row with
  | none => some table
  | some picked =>
      let others : Table Row := ⟨table.numbered.filter (·.number != picked.number)⟩
      if others.hasNumber number then none else some (others.place { picked with number })

/-- Changing rows in their places changes the rows one by one. -/
@[simp]
theorem rows_map (change : Row → Row) (table : Table Row) :
    (table.map change).rows = table.rows.map change := by
  simp [map, rows, Function.comp_def]

/-- Keeping rows keeps them in their order. -/
@[simp]
theorem rows_filter (keep : Row → Bool) (table : Table Row) :
    (table.filter keep).rows = table.rows.filter keep := by
  simp [filter, rows, List.filter_map, Function.comp_def]

end Table

end IntentPolicy
