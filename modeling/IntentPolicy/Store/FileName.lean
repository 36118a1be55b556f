import IntentPolicy.Store.OpenMode
import IntentPolicy.Text.Split
import IntentPolicy.Text.Utf8
import IntentPolicy.Web.Percent

namespace IntentPolicy

/-!
# Names of database files

A name is the path of a file, or one with `file:` in front, a path that can hold percent
signs for bytes and parameters behind it.
-/

/-- The name of a database file: its path, and the parameters behind it. -/
structure FileName where
  path : String
  parameters : List (String × String) := []
  deriving Repr, DecidableEq

namespace FileName

/-- The text of a part of a name, which ends before a byte that is zero. -/
def partText (characters : List Char) : String :=
  String.ofList (Utf8.lossyText ((percentBytes characters).takeWhile (· ≠ 0)))

/-- The parameters of a name, those without a name passed over. -/
def readParameters (characters : List Char) : List (String × String) :=
  ((splitAtEach '&' characters).map fun field =>
    let (name, value) := splitBefore (· == '=') field
    (partText name, partText (value.drop 1))).filter (·.1 ≠ "")

/-- Drop the machine in front of a path, which has to be this one. -/
def dropMachine? : List Char → Option (List Char)
  | '/' :: '/' :: rest =>
      let (machine, path) := splitBefore (· == '/') rest
      if machine.isEmpty || machine = "localhost".toList then some path else none
  | path => some path

/-- What opens a name with parameters. -/
def scheme : String := "file:"

/-- Read a name. -/
def read? (name : String) : Option FileName :=
  if name.startsWith scheme then do
    let rest ← dropMachine? (name.toList.drop scheme.length)
    let (path, parameters) := splitBefore (· == '?') (rest.takeWhile (· ≠ '#'))
    return ⟨partText path, readParameters (parameters.drop 1)⟩
  else some ⟨name, []⟩

/-- The character stands for itself in a path that is percent-encoded. -/
def isPlain (character : Char) : Bool :=
  character.isAlphanum

/-- The name of a path with parameters. -/
def text (path : String) (parameters : List String) : String :=
  scheme ++ String.ofList (percentEncode (!isPlain ·) path.toList) ++ "?" ++
    "&".intercalate parameters

/-- The value of the first parameter of a name raises a flag. -/
def raises (name : FileName) (parameter : String) : Bool :=
  (name.parameters.lookup parameter).any raisesFlag

/-- The mode that the parameters ask for within the one that is allowed. -/
def narrow? (allowed : OpenMode) (parameter : String × String) : Option OpenMode :=
  match parameter.1 with
  | "mode" => allowed.narrowed? parameter.2
  | "cache" => if ["shared", "private"].contains parameter.2 then some allowed else none
  | _ => some allowed

/-- The system that the parameters name; the last one counts. -/
def fileSystem? (name : FileName) : Option FileSystem :=
  FileSystem.ofName? ((name.parameters.reverse.lookup "vfs").getD "unix")

end FileName

end IntentPolicy
