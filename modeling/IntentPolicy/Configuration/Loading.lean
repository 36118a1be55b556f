import IntentPolicy.Configuration.FileTree
import IntentPolicy.Configuration.MarkedMoment
import IntentPolicy.Configuration.Patch
import IntentPolicy.Configuration.TomlReading
import IntentPolicy.Text.Split

namespace IntentPolicy

/-!
# Loading a configuration

From the lowest layer to the highest: the defaults, the file, the environment, and what
the command line overrides.  The layer that a setting is said to come from is worked
out apart from the loading: from the names of variables and from the file as written.
-/

/-- Which configuration is asked for. -/
structure LoadRequest where
  path : Option String := none
  fileRequired : Bool := false
  overrides : Overrides := {}
  deriving DecidableEq

/-- The layer that a setting comes from. -/
inductive SettingSource where
  | override
  | variable (name : String)
  | file (path : String)
  | default
  deriving Repr, DecidableEq

/-- The wording of the layer. -/
def SettingSource.text : SettingSource → String
  | .override => "override"
  | .variable name => s!"env ({name})"
  | .file path => s!"file ({path})"
  | .default => "default"

namespace LoadRequest

/-- The files that are looked for when none is named. -/
def usualPaths : List String := ["chainpolicy.toml", "config/chainpolicy.toml"]

/-- The file to read: the one that is named, or else the first usual one that is there. -/
def file? (request : LoadRequest) (files : FileTree) : Option (String × FileNode) :=
  (match request.path with
    | some path => [path]
    | none => usualPaths).findSome? fun path => (files.find? path).map fun node => (path, node)

/-- The text of a file, or why it cannot be read. -/
def readText (path : String) : FileNode → Except ConfigurationError String
  | .directory => .error (.unreadableFile path "Is a directory (os error 21)")
  | .undecodable => .error (.unreadableFile path "stream did not contain valid UTF-8")
  | .text content => .ok content

/-- The patch of a file: its text with the variables put in, read as a document. -/
def readPatch (environment : Environment) (path : String) (node : FileNode) :
    Except ConfigurationError SettingsPatch := do
  let text ← readText path node
  let interpolated ← environment.interpolate text.toList
  match (Toml.ofText? (String.ofList interpolated)).bind FileSettings.ofDocument? with
  | some settings => settings.complete
  | none => throw (.malformedFile path)

/-- The patch of the file layer, which is empty where no file is there or has to be. -/
def filePatch (request : LoadRequest) (files : FileTree) (environment : Environment) :
    Except ConfigurationError SettingsPatch :=
  match request.file? files with
  | some (path, node) => readPatch environment path node
  | none =>
      if request.fileRequired then .error (.missingFile (request.path.getD "chainpolicy.toml"))
      else .ok {}

/-- Load the configuration and check it. -/
def load (request : LoadRequest) (files : FileTree) (environment : Environment) :
    Except ConfigurationError Settings := do
  let filePatch ← request.filePatch files environment
  let environmentPatch ← environment.patch
  let settings :=
    ((({} : Settings).patched filePatch).patched environmentPatch).patched request.overrides.patch
  match settings.flaws with
  | [] => return settings
  | flaw :: _ => throw (.flawed flaw)

/-- The file as written gives the setting a value, if it is a document that can be read freely. -/
def fileNames (node : FileNode) (setting : Setting) : Bool :=
  match node with
  | .text content =>
      let path := (splitAtEach '.' (wordOf setting).toList).map String.ofList
      (Toml.ofText? content).any (Toml.namesPath path)
  | _ => false

/-- The layer that a setting is said to come from. -/
def source (request : LoadRequest) (files : FileTree) (environment : Environment)
    (setting : Setting) : SettingSource :=
  if request.overrides.names setting then .override
  else if (environment.lookup setting.variable).isSome then .variable setting.variable
  else
    match request.file? files with
    | some (path, node) => if fileNames node setting then .file path else .default
    | none => .default

end LoadRequest

end IntentPolicy
