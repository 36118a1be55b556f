import IntentPolicy.Number.Double

namespace IntentPolicy

/-!
# TOML documents

The value of a TOML document, and the three ways in which its lines add to it: a
header opens a table, a doubled header begins one more element of a list of tables,
and an assignment gives a dotted key its value.  Every one of them fails rather than
define a thing twice.
-/

/-- How a table came into its document, which decides what may still be added to it. -/
inductive TableOrigin where
  /-- Opened by a header of its own, once and for all. -/
  | header
  /-- Named on the way to a longer header; a header of its own may still follow. -/
  | implied
  /-- Named by a dotted key, and open to further dotted keys only. -/
  | dotted
  /-- Written in braces as one value; nothing is added to it later. -/
  | closed
  deriving Repr, DecidableEq

/-- A value of a TOML document. -/
inductive Toml where
  | text (value : String)
  | integer (value : Int)
  | real (value : Double)
  | bool (value : Bool)
  /-- A date, a time or both; no setting holds one, so its parts are not kept. -/
  | moment
  | array (items : List Toml)
  | table (origin : TableOrigin) (entries : List (String × Toml))
  /-- A list of tables that doubled headers wrote, the newest first. -/
  | tables (newestFirst : List (List (String × Toml)))
  deriving Repr

namespace Toml

/-- The entries of a table in the order in which they came. -/
abbrev Entries := List (String × Toml)

/-- Give a key that is already there another value. -/
def replaceEntry (key : String) (value : Toml) (entries : Entries) : Entries :=
  entries.map fun entry => if entry.1 = key then (key, value) else entry

/-- Add an entry at the end, unless its key is there already. -/
def addEntry? (key : String) (value : Toml) (entries : Entries) : Option Entries :=
  if (entries.lookup key).isSome then none else some (entries ++ [(key, value)])

/-- Change the table that a path of keys leads to.

Missing tables on the way come into being with the origin `opening`.  A list of tables
stands for its newest element.  A path of a dotted key does not enter a table that has
a header, and no path enters a value that is no table. -/
def reach? (opening : TableOrigin) (change : TableOrigin → Entries → Option Entries) :
    List String → TableOrigin → Entries → Option Entries
  | [], origin, entries => change origin entries
  | key :: path, _, entries =>
      match entries.lookup key with
      | none => do
          let inner ← reach? opening change path opening []
          return entries ++ [(key, .table opening inner)]
      | some (.table origin inner) =>
          if origin = .closed ∨ (opening = .dotted ∧ origin = .header) then none
          else do
            let inner ← reach? opening change path origin inner
            return replaceEntry key (.table origin inner) entries
      | some (.tables (newest :: older)) => do
          let newest ← reach? opening change path .header newest
          return replaceEntry key (.tables (newest :: older)) entries
      | some _ => none

/-- Open the table of a header, given as the path before its last key and that key; a table
that longer headers have implied is written here, behind the entries so far. -/
def openTable? (path : List String) (key : String) (document : Entries) : Option Entries :=
  reach? .implied
    (fun _ entries =>
      match entries.lookup key with
      | none => some (entries ++ [(key, .table .header [])])
      | some (.table .implied inner) =>
          some (entries.filter (·.1 ≠ key) ++ [(key, .table .header inner)])
      | some _ => none)
    path .header document

/-- Begin one more element of the list of tables that a doubled header names. -/
def openElement? (path : List String) (key : String) (document : Entries) : Option Entries :=
  reach? .implied
    (fun _ entries =>
      match entries.lookup key with
      | none => some (entries ++ [(key, .tables [[]])])
      | some (.tables elements) => some (replaceEntry key (.tables ([] :: elements)) entries)
      | some _ => none)
    path .header document

/-- Give a dotted key its value, counting from the given entries. -/
def assign? (path : List String) (key : String) (value : Toml) (entries : Entries) :
    Option Entries :=
  reach? .dotted
    (fun origin inner =>
      if path ≠ [] ∧ origin ≠ .dotted then none else addEntry? key value inner)
    path .header entries

/-- The entries of a value that is a table, whichever way it was written. -/
def entries? : Toml → Option Entries
  | .table _ entries => some entries
  | _ => none

end Toml

end IntentPolicy
