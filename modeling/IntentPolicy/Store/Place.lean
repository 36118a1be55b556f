import IntentPolicy.Store.FileName
import IntentPolicy.Text.Quoted

namespace IntentPolicy

/-!
# Places of databases

Where a database is kept and what may be done to it, as its URL says: in a file, or in
memory, where it lasts as long as the command that opened it.
-/

/-- Where a database is kept, and what may be done to it there. -/
inductive DatabasePlace where
  | memory (readOnly : Bool)
  /-- A fixed file is taken as it is: it is only read, and nobody else writes to it. -/
  | file (path : String) (access : DatabaseAccess) (isFixed isLogging : Bool)
  deriving Repr, DecidableEq

/-- Why a database cannot be opened. -/
inductive OpenError where
  | badUrl (reason : String)
  | zeroInName
  | noSuchPlace
  | notADatabase
  | notWritable
  deriving Repr, DecidableEq

/-- The wording of the error. -/
def OpenError.message : OpenError → String
  | .badUrl reason => s!"error with configuration: {reason}"
  | .zeroInName =>
      "error communicating with database: filename passed to SQLite must not contain nul bytes"
  | .noSuchPlace => "error returned from database: (code: 14) unable to open database file"
  | .notADatabase => "error returned from database: (code: 26) file is not a database"
  | .notWritable => "error returned from database: (code: 8) attempt to write a readonly database"

/-- What a URL says about a database. -/
structure DatabaseRequest where
  name : String
  mode : OpenMode := ⟨some .create, false⟩
  isFixed : Bool := false
  fileSystem : Option String := none
  deriving Repr, DecidableEq

namespace DatabaseRequest

/-- Drop an opening from the front as often as it stands there, up to a bound. -/
def dropOpenings (opening : List Char) : Nat → List Char → List Char
  | 0, characters => characters
  | bound + 1, characters =>
      if opening.isPrefixOf characters then
        dropOpenings opening bound (characters.drop opening.length)
      else characters

/-- A part of a form: plus signs are blanks, and percent signs open bytes. -/
def formText (characters : List Char) : String :=
  let spaced := characters.map fun character => if character = '+' then ' ' else character
  String.ofList (Utf8.lossyText (percentBytes spaced))

/-- The names and values of a form. -/
def formFields (characters : List Char) : List (String × String) :=
  ((splitAtEach '&' characters).filter (!·.isEmpty)).map fun field =>
    let (name, value) := splitBefore (· == '=') field
    (formText name, formText (value.drop 1))

/-- Take up a parameter of the URL. -/
def takeUp (request : DatabaseRequest) (field : String × String) :
    Except OpenError DatabaseRequest :=
  let (name, value) := field
  let unknown : Except OpenError DatabaseRequest :=
    .error (.badUrl s!"unknown value {quoted value} for `{name}`")
  match name, value with
  | "mode", "ro" => .ok { request with mode := { request.mode with access := some .read } }
  | "mode", "rw" | "mode", "rwc" => .ok request
  | "mode", "memory" => .ok { request with mode := { request.mode with inMemory := true } }
  | "cache", "private" | "cache", "shared" => .ok request
  | "immutable", "true" | "immutable", "1" => .ok { request with isFixed := true }
  | "immutable", "false" | "immutable", "0" => .ok { request with isFixed := false }
  | "mode", _ | "cache", _ | "immutable", _ => unknown
  | "vfs", system => .ok { request with fileSystem := some system }
  | _, _ => .error (.badUrl s!"unknown query parameter `{name}` while parsing connection URL")

/-- Read a URL; one that names memory asks for no file. -/
def ofUrl (url : String) : Except OpenError DatabaseRequest := do
  let characters := url.toList
  let unschemed := dropOpenings "sqlite:".toList characters.length characters
  let unslashed := dropOpenings "//".toList unschemed.length unschemed
  let (path, parameters) := splitBefore (· == '?') unslashed
  let request ←
    if path = ":memory:".toList then pure { name := "memory", mode := ⟨some .create, true⟩ }
    else
      match Utf8.text (percentBytes path) with
      | .ok name => pure { name }
      | .error fault => throw (.badUrl fault.message)
  (formFields (parameters.drop 1)).foldlM takeUp request

/-- The parameters that the name of the file carries. -/
def fileParameters (request : DatabaseRequest) : List String :=
  (if request.isFixed then ["immutable=true"] else []) ++
    (request.fileSystem.map fun system => s!"vfs={system}").toList

/-- The name under which the file is opened; without parameters it holds no byte that is zero. -/
def fileName (request : DatabaseRequest) : Except OpenError String :=
  let parameters := request.fileParameters
  let name := if parameters.isEmpty then request.name else FileName.text request.name parameters
  if name.toList.contains '\x00' then .error .zeroInName else .ok name

/-- The place of a database of this name, opened in a mode, if it can be opened so. -/
def place? (mode : OpenMode) (name : String) : Option DatabasePlace := do
  let file ← FileName.read? name
  let mode ← file.parameters.foldlM FileName.narrow? mode
  let system ← file.fileSystem?
  let readOnly := mode.access == some .read
  if mode.inMemory || file.path = "" || file.path = ":memory:" then return .memory readOnly
  else if system = .memory then return .memory (readOnly || file.raises "immutable")
  else
    let isLogging := system = .logging && !file.raises "nolock"
    return .file file.path (mode.access.getD .create) (file.raises "immutable") isLogging

end DatabaseRequest

/-- The place that a URL names. -/
def DatabasePlace.ofUrl (url : String) : Except OpenError DatabasePlace := do
  let request ← DatabaseRequest.ofUrl url
  match DatabaseRequest.place? request.mode (← request.fileName) with
  | some place => return place
  | none => throw .noSuchPlace

end IntentPolicy
