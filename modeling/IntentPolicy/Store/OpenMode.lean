import IntentPolicy.Number.Digits
import IntentPolicy.Text.LowerCase

namespace IntentPolicy

/-!
# How databases are opened

What may be done to a database, whether it is kept in memory, and by which system its
file is reached.  The name of a database can narrow what its URL allows.
-/

/-- What may be done to a database. -/
inductive DatabaseAccess where
  | read
  | write
  /-- It may also be made if it is not there. -/
  | create
  deriving Repr, DecidableEq

namespace DatabaseAccess

/-- How much may be done, in numbers. -/
def rank : DatabaseAccess → Nat
  | .read => 1
  | .write => 2
  | .create => 3

/-- The access of a mode. -/
def ofMode? : String → Option DatabaseAccess
  | "ro" => some .read
  | "rw" => some .write
  | "rwc" => some .create
  | _ => none

end DatabaseAccess

/-- How a database is opened; memory needs no access. -/
structure OpenMode where
  access : Option DatabaseAccess
  inMemory : Bool
  deriving Repr, DecidableEq

namespace OpenMode

/-- The mode that a name asks for within the one that is allowed, if it stays within it. -/
def narrowed? (allowed : OpenMode) (mode : String) : Option OpenMode :=
  if mode = "memory" then some ⟨none, true⟩
  else do
    let wanted ← DatabaseAccess.ofMode? mode
    if allowed.inMemory || wanted.rank ≤ (allowed.access.map DatabaseAccess.rank).getD 0 then
      return ⟨some wanted, false⟩
    else none

end OpenMode

/-- By which system files are reached. -/
inductive FileSystem where
  /-- Changes can be kept in a log ahead of the file. -/
  | logging
  /-- Changes go to the file at once. -/
  | plain
  /-- Files are kept in memory. -/
  | memory
  deriving Repr, DecidableEq

/-- The system of a name. -/
def FileSystem.ofName? : String → Option FileSystem
  | "unix" | "unix-excl" => some .logging
  | "unix-none" | "unix-dotfile" => some .plain
  | "memdb" => some .memory
  | _ => none

/-- The value of a parameter raises a flag: it is a number other than zero or a word for yes. -/
def raisesFlag (value : String) : Bool :=
  let digits := value.toList.takeWhile Char.isDigit
  if digits.isEmpty then ["on", "yes", "true"].contains (asciiLowered value)
  else digitsValue digits < twoTo 31 && digitsValue digits % 256 ≠ 0

end IntentPolicy
