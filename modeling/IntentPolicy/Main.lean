import IntentPolicy.Command.Run
import IntentPolicy.Store.Image
import IntentPolicy.Text.Identifier
import Std.Time.DateTime.Timestamp

namespace IntentPolicy

/-!
# The program

Reads the command line, the variables and files that it leads to, and the clock, runs the
command, writes the database back, and prints the result.  No server can be reached from
here, so every request of an enforcing command fails to connect.
-/

/-- How the program is called. -/
def usageText : String :=
  "usage: chainpolicy [OPTIONS] COMMAND\n\n" ++
  "commands:\n" ++
  "  parse [WORD...]                       check a sentence\n" ++
  "  translate WORD...                     show the policies of a sentence\n" ++
  "  intent create --owner OWNER WORD...   store an intent and enforce its policies\n" ++
  "  intent update ID WORD...              give an intent another sentence\n" ++
  "  intent delete ID                      withdraw an intent and its policies\n" ++
  "  intent show ID                        show an intent and its policies\n" ++
  "  intent list --owner OWNER             show the intents of an owner\n" ++
  "  rates set CURRENCY RATE               store the value of a currency\n" ++
  "  rates list                            show the stored rates\n" ++
  "  migrate [--revert]                    bring the database up to date, or empty it\n" ++
  "  config                                show the settings and where they come from\n\n" ++
  "options:\n" ++
  "  --config PATH, --database-url URL, --log-level LEVEL,\n" ++
  "  --pdp-enabled true|false, --pdp-url URL\n"

/-- What stands at a path. -/
def readNode? (path : String) : IO (Option FileNode) := do
  let full := (← IO.currentDir) / path
  if ← full.isDir then return some .directory
  else if ← full.pathExists then
    match String.fromUTF8? (← IO.FS.readBinFile full) with
    | some content => return some (.text content)
    | none => return some .undecodable
  else return none

/-- What stands at some paths and on the way to them. -/
def readTree (paths : List String) : IO FileTree := do
  let places := paths.flatMap fun path => FileTree.placesAlong [] (FileTree.segments path)
  let nodes ← places.filterMapM fun place => do
    return (← readNode? (FileTree.pathText place)).map fun node => (place, node)
  return ⟨nodes⟩

/-- The variables that a command can ask for, given the files of its configuration. -/
def readEnvironment (files : FileTree) : IO Environment := do
  let mentioned := files.nodes.flatMap fun (_, node) =>
    match node with
    | .text content => Environment.mentionedNames content.toList
    | _ => []
  (Environment.settingNames ++ mentioned).filterMapM fun name => do
    return (← IO.getEnv name).map fun value => (name, value)

/-- The path of the database that a configuration leads to, if it is kept in a file. -/
def databasePath? (request : LoadRequest) (files : FileTree) (environment : Environment) :
    Option String :=
  match request.load files environment with
  | .error _ => none
  | .ok settings =>
      match DatabasePlace.ofUrl settings.database.url with
      | .ok (.file path ..) => some path
      | _ => none

/-- The time of the clock. -/
def readClock : IO Instant := do
  let nanoseconds := (← Std.Time.Timestamp.now).toNanosecondsSinceUnixEpoch.val
  return ⟨nanoseconds / Instant.billion, (nanoseconds % Instant.billion).toNat⟩

/-- A source of random numbers. -/
def readGenerator : IO StdGen := do
  let bytes ← IO.getRandomBytes 16
  return mkStdGen (bytes.toList.foldl (fun seed byte => 256 * seed + byte.toNat) 0)

/-- Run a command on the files of the working directory. -/
def runCommand (request : LoadRequest) (command : Command) : IO CommandResult := do
  let paths := (request.path.map fun path => [path]).getD LoadRequest.usualPaths
  let configuration ← readTree paths
  let environment ← readEnvironment configuration
  let files ← readTree (paths ++ (databasePath? request configuration environment).toList)
  let found := files.nodes.filterMap fun (place, node) =>
    match node with
    | .text content => (Database.ofFileText? content).map fun kept => (place, kept)
    | _ => none
  let databases := found.map fun (place, database, _) => (place, database)
  let logged := (found.filter (·.2.2)).map (·.1)
  let (correlation, generator) := randomIdentifier (← readGenerator)
  let surroundings : Surroundings StdGen :=
    { environment
      now := ← readClock
      correlationId := "cli-" ++ correlation
      newId := randomIdentifier
      transport := fun _ => pure none }
  let (result, machine) := surroundings.run request command ⟨files, databases, logged, generator⟩
  for (place, database) in machine.databases do
    let isLogged := machine.logged.contains place
    if place ≠ [] ∧ found.lookup place ≠ some (database, isLogged) then
      IO.FS.writeFile ((← IO.currentDir) / FileTree.pathText place) (database.fileText isLogged)
  return result

end IntentPolicy

/-- Run the command of a command line, print its result, and exit with its code. -/
def main (arguments : List String) : IO UInt32 := do
  match IntentPolicy.CommandLine.ofArguments arguments with
  | .error .help =>
      IO.print IntentPolicy.usageText
      return IntentPolicy.Usage.help.exitCode.toUInt32
  | .error usage =>
      IO.eprint IntentPolicy.usageText
      return usage.exitCode.toUInt32
  | .ok (request, command) =>
      let result ← IntentPolicy.runCommand request command
      IO.println result.output.compact
      return result.exitCode.toUInt32
