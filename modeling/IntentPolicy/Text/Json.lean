import IntentPolicy.Number.Double
import IntentPolicy.Number.Shortest

namespace IntentPolicy

/-!
# JSON values

Values of JSON with their object fields in order, and their compact text.  A number is
an integer or a double, whichever its text showed.
-/

/-- A value of JSON. -/
inductive Json where
  | null
  | bool (value : Bool)
  | integer (value : Int)
  | real (value : Double)
  | text (value : String)
  | array (items : List Json)
  | object (fields : List (String × Json))

namespace Json

instance : Inhabited Json := ⟨.null⟩

/-- An optional text, null when absent. -/
def optionalText : Option String → Json
  | some value => .text value
  | none => .null

/-- An array of texts. -/
def texts (values : List String) : Json :=
  .array (values.map .text)

/-- The fields of one name, in order. -/
def fieldsNamed (name : String) : List (String × Json) → List Json
  | [] => []
  | (key, value) :: rest =>
      if key = name then value :: fieldsNamed name rest else fieldsNamed name rest

/-- The text of a value that is one. -/
def asText? : Json → Option String
  | .text value => some value
  | _ => none

/-- The truth of a value that is one. -/
def asBool? : Json → Option Bool
  | .bool value => some value
  | _ => none

/-- The natural number of a value that is one. -/
def asNat? : Json → Option Nat
  | .integer (.ofNat value) => some value
  | _ => none

/-- The items of an array; any other value has none. -/
def items : Json → List Json
  | .array items => items
  | _ => []

/-- The fields of an object; any other value has none. -/
def fields : Json → List (String × Json)
  | .object fields => fields
  | _ => []

/-- The value of a field, of several of one name the last; null where there is none. -/
def field (value : Json) (name : String) : Json :=
  ((fieldsNamed name value.fields).getLast?).getD .null

/-- The text of a field, blank where there is none. -/
def textField (value : Json) (name : String) : String :=
  ((value.field name).asText?).getD ""

/-- One hexadecimal digit in lower case. -/
def hexDigit (value : Nat) : Char :=
  Nat.digitChar value

/-- A character inside quotes: quotes, backslashes and controls are escaped. -/
def escaped (character : Char) : List Char :=
  match character with
  | '"' => ['\\', '"']
  | '\\' => ['\\', '\\']
  | '\x08' => ['\\', 'b']
  | '\x0c' => ['\\', 'f']
  | '\n' => ['\\', 'n']
  | '\r' => ['\\', 'r']
  | '\t' => ['\\', 't']
  | _ =>
      if character.toNat < 0x20 then
        ['\\', 'u', '0', '0', hexDigit (character.toNat / 16), hexDigit (character.toNat % 16)]
      else [character]

/-- A text in quotes. -/
def quoted (value : String) : List Char :=
  '"' :: value.toList.flatMap escaped ++ ['"']

/-- The text of a number: a double that is not finite has none. -/
def numberText (value : Double) : List Char :=
  if value.isFinite then
    let digits := value.shortestText
    if digits.contains '.' then digits else digits ++ ['.', '0']
  else "null".toList

/-- Put commas between texts. -/
def commaSeparated : List (List Char) → List Char
  | [] => []
  | [last] => last
  | first :: rest => first ++ ',' :: commaSeparated rest

mutual

/-- The compact text of a value. -/
def characters : Json → List Char
  | .null => "null".toList
  | .bool value => (if value then "true" else "false").toList
  | .integer value => (toString value).toList
  | .real value => numberText value
  | .text value => quoted value
  | .array items => '[' :: commaSeparated (itemTexts items) ++ [']']
  | .object fields => '\x7b' :: commaSeparated (fieldTexts fields) ++ ['\x7d']

/-- The compact texts of the items of an array. -/
def itemTexts : List Json → List (List Char)
  | [] => []
  | item :: rest => item.characters :: itemTexts rest

/-- The compact texts of the fields of an object. -/
def fieldTexts : List (String × Json) → List (List Char)
  | [] => []
  | (name, value) :: rest => (quoted name ++ ':' :: value.characters) :: fieldTexts rest

end

/-- The compact text of a value. -/
def compact (value : Json) : String :=
  String.ofList value.characters

end Json

end IntentPolicy
