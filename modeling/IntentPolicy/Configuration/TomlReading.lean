import IntentPolicy.Configuration.TomlScalar

namespace IntentPolicy.Toml

/-!
# Reading TOML

A reader for whole TOML documents.  A dotted key has fewer than eighty parts, and values
nest fewer than eighty deep.  The readers recurse on a bound for the characters left,
which every step brings down.
-/

/-- The bound on the parts of a key and on the nesting of values. -/
def deepest : Nat := 79

/-- Drop the spaces and tabs at the front. -/
def skipSpaces (characters : List Char) : List Char :=
  characters.dropWhile fun character => character == ' ' || character == '\t'

/-- Drop a comment at the front, up to the end of its line. -/
def skipComment (characters : List Char) : List Char :=
  match characters with
  | '#' :: rest => rest.dropWhile isPlain
  | rest => rest

/-- Drop white space, line ends and whole comments at the front. -/
def skipLines : Nat → List Char → List Char
  | 0, characters => characters
  | bound + 1, characters =>
      match skipComment (skipSpaces characters) with
      | '\n' :: rest => skipLines bound rest
      | rest => rest

/-- What follows the end of a line, after spaces and a comment. -/
def endLine? (characters : List Char) : Option (List Char) :=
  match skipComment (skipSpaces characters) with
  | [] => some []
  | '\n' :: rest => some rest
  | _ => none

/-- The characters of a key without quotes. -/
def isKeyCharacter (character : Char) : Bool :=
  character.isAlphanum || character == '-' || character == '_'

/-- Read one part of a key. -/
def readKeyPart? (characters : List Char) : Option (String × List Char) :=
  let bare := characters.takeWhile isKeyCharacter
  if bare.isEmpty then readQuotedKey? characters
  else some (String.ofList bare, characters.dropWhile isKeyCharacter)

/-- Read a dotted key, with spaces around its parts, as the path before its last part and
that part. -/
def readKey? : Nat → List Char → Option ((List String × String) × List Char)
  | 0, _ => none
  | bound + 1, characters => do
      let (part, rest) ← readKeyPart? (skipSpaces characters)
      match skipSpaces rest with
      | '.' :: rest => do
          let ((path, key), rest) ← readKey? bound rest
          return ((part :: path, key), rest)
      | rest => return (([], part), rest)

/-- Read a fixed word as a truth value. -/
def readTruth? (characters : List Char) : Option (Toml × List Char) :=
  if "true".toList.isPrefixOf characters then some (.bool true, characters.drop 4)
  else if "false".toList.isPrefixOf characters then some (.bool false, characters.drop 5)
  else none

mutual

/-- Read one value. -/
def readValue? (bound depth : Nat) (characters : List Char) : Option (Toml × List Char) :=
  match bound with
  | 0 => none
  | bound + 1 =>
      match characters, depth with
      | '[' :: rest, depth + 1 => do
          let (items, rest) ← readItems? bound depth rest
          return (.array items, rest)
      | '\x7b' :: rest, depth + 1 =>
          match skipSpaces rest with
          | '\x7d' :: rest => some (.table .closed [], rest)
          | rest => do
              let (entries, rest) ← readPairs? bound depth [] rest
              return (.table .closed entries, rest)
      | '[' :: _, 0 => none
      | '\x7b' :: _, 0 => none
      | characters, _ =>
          (readText? characters).or ((readTruth? characters).or
            ((readMoment? characters).or (readNumber? characters)))

/-- Read the items of an array up to its end; a comma may follow the last of them. -/
def readItems? (bound depth : Nat) (characters : List Char) : Option (List Toml × List Char) :=
  match bound with
  | 0 => none
  | bound + 1 =>
      match skipLines characters.length characters with
      | ']' :: rest => some ([], rest)
      | rest => do
          let (item, rest) ← readValue? bound depth rest
          match skipLines rest.length rest with
          | ',' :: rest => do
              let (items, rest) ← readItems? bound depth rest
              return (item :: items, rest)
          | ']' :: rest => return ([item], rest)
          | _ => none

/-- Read the assignments between braces up to their end, adding to the entries so far. -/
def readPairs? (bound depth : Nat) (entries : Entries) (characters : List Char) :
    Option (Entries × List Char) :=
  match bound with
  | 0 => none
  | bound + 1 => do
      let ((path, key), rest) ← readKey? deepest characters
      let rest ← takeCharacter? '=' rest
      let (value, rest) ← readValue? bound depth (skipSpaces rest)
      let entries ← assign? path key value entries
      match skipSpaces rest with
      | ',' :: rest => readPairs? bound depth entries rest
      | '\x7d' :: rest => return (entries, rest)
      | _ => none

end

/-- Read the lines of a document, adding to what is there and to the table at hand.

The table at hand is the path of the last header, a list of tables standing for its
newest element. -/
def readLinesFrom? : Nat → List String → Entries → List Char → Option Entries
  | 0, _, _, _ => none
  | bound + 1, current, document, characters =>
      match skipLines characters.length characters with
      | [] => some document
      | '[' :: '[' :: rest => do
          let ((path, key), rest) ← readKey? deepest rest
          let rest ← takeCharacter? ']' rest
          let rest ← takeCharacter? ']' rest
          let document ← openElement? path key document
          readLinesFrom? bound (path ++ [key]) document (← endLine? rest)
      | '[' :: rest => do
          let ((path, key), rest) ← readKey? deepest rest
          let rest ← takeCharacter? ']' rest
          let document ← openTable? path key document
          readLinesFrom? bound (path ++ [key]) document (← endLine? rest)
      | rest => do
          let ((path, key), rest) ← readKey? deepest rest
          let rest ← takeCharacter? '=' rest
          let (value, rest) ← readValue? (2 * rest.length + 2) deepest (skipSpaces rest)
          let document ←
            reach? .implied (fun _ entries => assign? path key value entries)
              current .header document
          readLinesFrom? bound current document (← endLine? rest)

/-- Write each line end as a single line feed. -/
def joinLineEnds : List Char → List Char
  | '\r' :: '\n' :: rest => '\n' :: joinLineEnds rest
  | character :: rest => character :: joinLineEnds rest
  | [] => []

/-- Read a whole document; a byte order mark may stand before it. -/
def ofText? (text : String) : Option Entries :=
  let characters := match joinLineEnds text.toList with
    | '\uFEFF' :: rest => rest
    | rest => rest
  readLinesFrom? (characters.length + 1) [] [] characters

end IntentPolicy.Toml
