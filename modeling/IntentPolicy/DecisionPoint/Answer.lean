import IntentPolicy.Text.JsonSkipping

namespace IntentPolicy

/-!
# Answers of the decision point

What the client looks for in an answer: the identifier of a policy that was saved, or the
reason why a request was refused.  Each is a text, alone under its name in an object or
alone in an array; other fields of an object are passed over.
-/

/-- Reads a value off the front of a text. -/
abbrev FrontReader (Value : Type) : Type :=
  List Char → Option (Value × List Char)

namespace Answer

open Json

/-- Read a text in quotes. -/
def readText? : FrontReader String := fun characters => do
  match skipBlanks characters with
  | '"' :: rest =>
      let (characters, rest) ← readQuoted? (rest.length + 1) rest
      return (String.ofList characters, rest)
  | _ => none

/-- Read the name of a field and the colon behind it. -/
def readName? : FrontReader String := fun characters => do
  let (name, rest) ← readText? characters
  match skipBlanks rest with
  | ':' :: rest => return (name, rest)
  | _ => none

variable {Value : Type}

/-- Read the fields of an object up to its end; one has the name, and its value is read. -/
def readFields? (name : String) (read : FrontReader Value) :
    Nat → Option Value → FrontReader Value
  | 0, _, _ => none
  | bound + 1, found, characters => do
      let (given, rest) ← readName? characters
      let (found, rest) ←
        if given ≠ name then (skipValue? rest).map fun rest => (found, rest)
        else if found.isSome then none
        else (read rest).map fun (value, rest) => (some value, rest)
      match skipBlanks rest, found with
      | ',' :: rest, _ => readFields? name read bound found rest
      | '\x7d' :: rest, some value => return (value, rest)
      | _, _ => none

/-- Read the value of the one field of this name in an object, or the one item of an array. -/
def readSole? (name : String) (read : FrontReader Value) : FrontReader Value :=
  fun characters => do
    match skipBlanks characters with
    | '\x7b' :: rest => readFields? name read rest.length none rest
    | '[' :: rest =>
        let (value, rest) ← read rest
        match skipBlanks rest with
        | ']' :: rest => return (value, rest)
        | _ => none
    | _ => none

/-- Read a whole text. -/
def readWhole? (read : FrontReader Value) (text : String) : Option Value := do
  let (value, rest) ← read text.toList
  if (skipBlanks rest).isEmpty then return value else none

/-- The identifier in the answer to a policy that was saved. -/
def savedPolicyId? : String → Option String :=
  readWhole? (readSole? "policy" (readSole? "_id" readText?))

/-- The reason in the answer to a request that was refused. -/
def refusalReason? : String → Option String :=
  readWhole? (readSole? "message" readText?)

end Answer

end IntentPolicy
