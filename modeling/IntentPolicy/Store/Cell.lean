import IntentPolicy.Number.NearLiteral
import IntentPolicy.Store.Repositories

namespace IntentPolicy

/-!
# Cells of a number column

A number column can hold other things than numbers when another program writes to it.
A text that spells a number becomes that number, every other text stays as it is.
-/

/-- What a number column holds. -/
inductive NumberCell where
  | integer (value : Int)
  | real (value : Double)
  | text (value : String)
  deriving Repr, DecidableEq

/-- A value that another program writes. -/
inductive WrittenValue where
  | null
  | integer (value : Int)
  | text (value : String)
  deriving Repr, DecidableEq

/-- The number is an integer of 64 bits. -/
def isStorableInteger (value : Int) : Bool :=
  -(twoTo 63 : Int) ≤ value && value < twoTo 63

/-- The parts of the literal that a text spells, blanks around it aside. -/
def spelledNumber? (text : String) : Option LiteralParts :=
  let isCellBlank (character : Char) : Bool :=
    character == ' ' || (0x09 ≤ character.toNat && character.toNat ≤ 0x0D)
  let trailing := (text.toList.dropWhile isCellBlank).reverse.dropWhile isCellBlank
  LiteralParts.read? trailing.reverse

/-- The text is a run of digits with an optional sign, blanks around it aside. -/
def spellsInteger (text : String) : Bool :=
  !text.toList.any fun character => character == '.' || character == 'e' || character == 'E'

namespace Double

/-- The integer that a finite double is, if it is one. -/
def toInteger? (number : Double) : Option Int :=
  let (numerator, denominator) := number.magnitudeRatio
  if number.isFinite && numerator % denominator = 0 then
    let magnitude : Int := (numerator / denominator : Nat)
    some (if number.isNegative then -magnitude else magnitude)
  else none

/-- The double as a real column holds it, where zero has no sign. -/
def unsignedZero (number : Double) : Double :=
  if number.isZero then .zero else number

end Double

namespace NumberCell

/-- A double as an integer column holds it: as an integer where that loses nothing. -/
def ofDouble (number : Double) : NumberCell :=
  match number.toInteger? with
  | some value =>
      if -(twoTo 63 : Int) < value && value < twoTo 63 - 1 then .integer value else .real number
  | none => .real number

/-- A text as an integer column holds it. -/
def integerOfText (text : String) : NumberCell :=
  match spelledNumber? text with
  | none => .text text
  | some parts =>
      let magnitude := digitsValue parts.whole
      let value : Int := if parts.negative then -magnitude else magnitude
      if spellsInteger text && isStorableInteger value then .integer value
      else ofDouble (.nearLiteral parts)

/-- A text as a real column holds it. -/
def realOfText (text : String) : NumberCell :=
  match spelledNumber? text with
  | none => .text text
  | some parts => .real (Double.nearLiteral parts).unsignedZero

/-- A written value as an integer column holds it. -/
def ofWrittenInteger (column : String) : WrittenValue → Except DatabaseFault NumberCell
  | .null => .error (.notNull column)
  | .integer value => .ok (.integer value)
  | .text value => .ok (integerOfText value)

/-- A written value as a real column holds it. -/
def ofWrittenReal (column : String) : WrittenValue → Except DatabaseFault NumberCell
  | .null => .error (.notNull column)
  | .integer value => .ok (.real (.ofInt value))
  | .text value => .ok (realOfText value)

/-- Read a count of 32 bits. -/
def readCount (column : String) : NumberCell → Except DecodeFault UInt32
  | .integer value =>
      if 0 ≤ value && value < twoTo 32 then .ok (.ofNat value.toNat)
      else .error (.outOfRange column value)
  | _ => .error (.wrongType column)

/-- Read a flag, which every integer but zero raises. -/
def readFlag (column : String) : NumberCell → Except DecodeFault Bool
  | .integer value => .ok (value != 0)
  | _ => .error (.wrongType column)

/-- Read a real number. -/
def readReal (column : String) : NumberCell → Except DecodeFault Double
  | .real value => .ok value
  | _ => .error (.wrongType column)

/-- A count as it is stored. -/
def ofCount (count : UInt32) : NumberCell :=
  .integer count.toNat

/-- A flag as it is stored. -/
def ofFlag (flag : Bool) : NumberCell :=
  .integer (if flag then 1 else 0)

end NumberCell

/-- A written value as a text column holds it. -/
def WrittenValue.asText (column : String) : WrittenValue → Except DatabaseFault String
  | .null => .error (.notNull column)
  | .integer value => .ok (toString value)
  | .text value => .ok value

/-- A written value as a text column holds it that may be null. -/
def WrittenValue.asOptionalText : WrittenValue → Option String
  | .null => none
  | .integer value => some (toString value)
  | .text value => some value

/-- A text as a column holds it that admits the words of a vocabulary only. -/
def storedWord (Value : Type) [Vocabulary Value] (column text : String) :
    Except DatabaseFault String :=
  if (Vocabulary.ofWord? text : Option Value).isSome then .ok text else .error (.check column)

/-- The words of the vocabulary are admitted. -/
@[simp]
theorem storedWord_wordOf
    {Value : Type}
    [Vocabulary Value]
    (column : String)
    (value : Value) :
    storedWord Value column (wordOf value) = .ok (wordOf value) := by
  have isFound : (Vocabulary.ofWord? (wordOf value) : Option Value).isSome = true :=
    List.find?_isSome.mpr ⟨value, Vocabulary.mem_all value, beq_self_eq_true (wordOf value)⟩
  rw [storedWord, if_pos isFound]

/-- A column of a table, with what becomes of a row when it is written. -/
structure Column (Row : Type) where
  name : String
  write : WrittenValue → Row → Except DatabaseFault Row

namespace Column

variable {Row : Type}

/-- A key column, which may be null. -/
def key (name : String) (set : Option String → Row → Row) : Column Row :=
  ⟨name, fun value row => .ok (set value.asOptionalText row)⟩

/-- A text column. -/
def text (name : String) (set : String → Row → Row) : Column Row :=
  ⟨name, fun value row => (value.asText name).map (set · row)⟩

/-- A text column that admits the words of a vocabulary only. -/
def word (Value : Type) [Vocabulary Value] (name : String) (set : String → Row → Row) :
    Column Row where
  name := name
  write value row := do return set (← storedWord Value name (← value.asText name)) row

/-- An integer column. -/
def integer (name : String) (set : NumberCell → Row → Row) : Column Row :=
  ⟨name, fun value row => (NumberCell.ofWrittenInteger name value).map (set · row)⟩

/-- A real column. -/
def real (name : String) (set : NumberCell → Row → Row) : Column Row :=
  ⟨name, fun value row => (NumberCell.ofWrittenReal name value).map (set · row)⟩

end Column

end IntentPolicy
