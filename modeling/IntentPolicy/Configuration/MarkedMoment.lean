import IntentPolicy.Configuration.TomlScalar

namespace IntentPolicy.Toml

/-!
# Tables that stand for moments

In a document that is read freely, without settings in view, a table whose first key is a
reserved one stands for the moment that the text under that key spells.  Nothing is found
in such a table by a path, and a document is no free value where the text spells no moment.
-/

/-- The reserved key. -/
def momentKey : String := "$__toml_private_datetime"

/-- Read the distance to universal time behind a spelled moment, which is at most a day. -/
def readDistance? (characters : List Char) : Option (List Char) :=
  match characters with
  | 'Z' :: rest => some rest
  | 'z' :: rest => some rest
  | sign :: rest =>
      if sign = '+' ∨ sign = '-' then do
        let (hours, rest) ← takeDigits? 2 rest
        let rest ← takeCharacter? ':' rest
        let (minutes, rest) ← takeDigits? 2 rest
        if 60 * hours + minutes ≤ 60 * 24 then return rest else none
      else some characters
  | [] => some []

/-- The whole text spells a moment: a date, a time, or both with the distance to universal
time.  The day may end with the hour 24. -/
def spellsMoment (text : String) : Bool :=
  let characters := text.toList
  match readDate? characters with
  | some [] => true
  | some (mark :: rest) =>
      (mark == 'T' || mark == 't' || mark == ' ') &&
        (readTime? 24 rest).bind readDistance? == some []
  | none => readTime? 24 characters == some []

/-- What a table stands for, by its first entry: a moment, spelled well or not, or else the
table itself. -/
inductive Standing where
  | moment
  | misspelled
  | table
  deriving Repr, DecidableEq

/-- What the entries of a table stand for. -/
def standing : Entries → Standing
  | [] => .table
  | (key, value) :: _ =>
      if key = momentKey then
        match value with
        | .text value => if spellsMoment value then .moment else .misspelled
        | _ => .misspelled
      else .table

/-- A table can be read freely: of one that stands for a moment nothing else is read. -/
def Standing.isFreeWith (areFree : Bool) : Standing → Bool
  | .moment => true
  | .misspelled => false
  | .table => areFree

mutual

/-- The value can be read freely: every moment in it is spelled well. -/
def isFree : Toml → Bool
  | .array items => areFreeItems items
  | .table _ entries => (standing entries).isFreeWith (areFreeEntries entries)
  | .tables elements => areFreeElements elements
  | .text _ => true
  | .integer _ => true
  | .real _ => true
  | .bool _ => true
  | .moment => true

/-- The items of an array can be read freely. -/
def areFreeItems : List Toml → Bool
  | [] => true
  | item :: rest => isFree item && areFreeItems rest

/-- The values of a table can be read freely. -/
def areFreeEntries : List (String × Toml) → Bool
  | [] => true
  | (_, value) :: rest => isFree value && areFreeEntries rest

/-- The elements of a list of tables can be read freely. -/
def areFreeElements : List (List (String × Toml)) → Bool
  | [] => true
  | element :: rest =>
      (standing element).isFreeWith (areFreeEntries element) && areFreeElements rest

end

/-- The table can be read freely. -/
def isFreeTable (entries : Entries) : Bool :=
  (standing entries).isFreeWith (areFreeEntries entries)

/-- The path of keys leads to a value, through tables alone. -/
def holdsPath : List String → Entries → Bool
  | [], _ => true
  | key :: path, entries =>
      standing entries == .table &&
        match path, entries.lookup key with
        | [], value => value.isSome
        | _ :: _, some value => (value.entries?).any (holdsPath path)
        | _ :: _, none => false

/-- The document can be read freely, and the path of keys leads to a value in it. -/
def namesPath (path : List String) (document : Entries) : Bool :=
  isFreeTable document && holdsPath path document

end IntentPolicy.Toml
