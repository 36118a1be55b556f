import IntentPolicy.Configuration.Loading

namespace IntentPolicy

/-!
# The command line

The commands with their arguments, and the reading of a command line.  Options that
choose a configuration may stand at any level, and a deeper level wins; other options and
words belong to the command before them.  After `--` everything is a word.  A value that
stands apart from its option is taken up with the argument behind it, so one in front of a
subcommand is only taken up after that subcommand has been read.
-/

/-- A command with its arguments. -/
inductive Command where
  | parse (sentence : String)
  | translate (sentence : String)
  | createIntent (owner sentence : String)
  | updateIntent (id sentence : String)
  | deleteIntent (id : String)
  | showIntent (id : String)
  | listIntents (owner : String)
  | setRate (currency rate : String)
  | listRates
  | migrate (reverting : Bool)
  | showConfiguration
  deriving Repr, DecidableEq

/-- A command line that names no command to run. -/
inductive Usage where
  | help
  | misuse
  deriving Repr, DecidableEq

/-- The exit code after a usage text. -/
def Usage.exitCode : Usage → Nat
  | .help => 0
  | .misuse => 2

/-- What one level of the command line accepts. -/
structure CommandLevel where
  subcommands : List String := []
  options : List String := []
  flags : List String := []
  /-- The most words that the level takes, or any number of them. -/
  wordLimit : Option Nat := some 0

/-- What one level of a command line was given. -/
structure CommandInput where
  options : List (String × String) := []
  flags : List String := []
  words : List String := []
  deriving Repr, DecidableEq

namespace CommandLevel

/-- The options that every level accepts. -/
def sharedOptions : List String :=
  ["config", "database-url", "log-level", "pdp-enabled", "pdp-url"]

/-- The level that a path of commands leads to. -/
def ofPath : List String → CommandLevel
  | [] => { subcommands := ["parse", "translate", "intent", "rates", "migrate", "config"] }
  | ["parse"] => { wordLimit := none }
  | ["translate"] => { wordLimit := none }
  | ["intent"] => { subcommands := ["create", "update", "delete", "show", "list"] }
  | ["intent", "create"] => { options := ["owner"], wordLimit := none }
  | ["intent", "update"] => { wordLimit := none }
  | ["intent", "delete"] => { wordLimit := some 1 }
  | ["intent", "show"] => { wordLimit := some 1 }
  | ["intent", "list"] => { options := ["owner"] }
  | ["rates"] => { subcommands := ["set", "list"] }
  | ["rates", "set"] => { wordLimit := some 2 }
  | ["migrate"] => { flags := ["revert"] }
  | _ => {}

/-- The option can have this value. -/
def acceptsValue (option value : String) : Bool :=
  if option = "pdp-enabled" then value = "true" || value = "false"
  else option ≠ "config" || !value.isEmpty

/-- Help on a path of commands, if there is such a path. -/
def helpOn (path : List String) : List String → Usage
  | [] => .help
  | name :: rest =>
      let subcommands := (ofPath path).subcommands
      if name ∈ subcommands then helpOn (path ++ [name]) rest
      else if name = "help" ∧ !subcommands.isEmpty ∧ rest.isEmpty then .help
      else .misuse

/-- Give an option its value, which it can get once at a level. -/
def addOption (level : CommandLevel) (input : CommandInput) (name value : String) :
    Except Usage CommandInput :=
  if name ∉ sharedOptions ++ level.options ∨ (input.options.lookup name).isSome ∨
      !acceptsValue name value then
    .error .misuse
  else .ok { input with options := input.options ++ [(name, value)] }

/-- Set a flag, which can be set once. -/
def addFlag (level : CommandLevel) (input : CommandInput) (name : String) :
    Except Usage CommandInput :=
  if name = "help" then .error .help
  else if name ∉ level.flags ∨ name ∈ input.flags then .error .misuse
  else .ok { input with flags := input.flags ++ [name] }

/-- Take one more word. -/
def addWord (level : CommandLevel) (input : CommandInput) (word : String) :
    Except Usage CommandInput :=
  if level.wordLimit.any (· ≤ input.words.length) then .error .misuse
  else .ok { input with words := input.words ++ [word] }

/-- Take up the value of the option before this place, if one is waiting. -/
def settle (level : CommandLevel) (input : CommandInput) :
    Option (String × String) → Except Usage CommandInput
  | some (name, value) => level.addOption input name value
  | none => .ok input

/-- Read the words behind the mark that ends the options. -/
def readWords (level : CommandLevel) (input : CommandInput) (words : List String) :
    Except Usage CommandInput :=
  words.foldlM level.addWord input

/-- The argument is an option or a cluster of one-letter flags. -/
def isDashed (argument : String) : Bool :=
  argument.startsWith "-" && argument ≠ "-"

/-- Read one level of a command line, up to the subcommand that opens the next one.  Given
with the input so far is an option that waits for its value to be taken up. -/
def read (path : List String) (input : CommandInput) (waiting : Option (String × String)) :
    List String → Except Usage (CommandInput × Option (String × String) × List String)
  | [] => .ok (input, waiting, [])
  | argument :: rest =>
      let level := ofPath path
      if argument ∈ level.subcommands then .ok (input, waiting, argument :: rest)
      else if argument = "help" ∧ !level.subcommands.isEmpty then .error (helpOn path rest)
      else do
        let input ← level.settle input waiting
        if argument = "--" then return (← level.readWords input rest, none, [])
        else if argument.startsWith "--" then
          let name := String.ofList ((argument.toList.drop 2).takeWhile (· ≠ '='))
          if argument.toList.contains '=' then
            let value := String.ofList ((argument.toList.dropWhile (· ≠ '=')).drop 1)
            read path (← level.addOption input name value) none rest
          else if name ∈ sharedOptions ++ level.options then
            match rest with
            | value :: rest =>
                if isDashed value then throw .misuse else read path input (name, value) rest
            | [] => throw .misuse
          else read path (← level.addFlag input name) none rest
        else if isDashed argument then
          throw (if argument.startsWith "-h" then .help else .misuse)
        else read path (← level.addWord input argument) none rest

end CommandLevel

/-- A command line by its levels: the path of commands, and what was given at each. -/
structure CommandLine where
  path : List String := []
  inputs : List CommandInput := []
  deriving Repr, DecidableEq

namespace CommandLine

/-- Read a command line from the level of a path on, down to a depth. -/
def read : Nat → List String → List String → Except Usage CommandLine
  | 0, path, _ => .ok { path }
  | depth + 1, path, arguments => do
      let (input, waiting, rest) ← CommandLevel.read path {} none arguments
      let line ← match rest with
        | [] => pure { path }
        | name :: rest => read depth (path ++ [name]) rest
      let input ← (CommandLevel.ofPath path).settle input waiting
      return { line with inputs := input :: line.inputs }

/-- The value of an option, from the deepest level that has it. -/
def option? (line : CommandLine) (name : String) : Option String :=
  line.inputs.reverse.findSome? fun input => input.options.lookup name

/-- The configuration that the options choose. -/
def request (line : CommandLine) : LoadRequest where
  path := line.option? "config"
  fileRequired := (line.option? "config").isSome
  overrides :=
    { databaseUrl := line.option? "database-url"
      logLevel := line.option? "log-level"
      decisionPointEnabled := (line.option? "pdp-enabled").map (· == "true")
      decisionPointUrl := line.option? "pdp-url" }

/-- Words as one sentence. -/
def sentence (words : List String) : String :=
  " ".intercalate words

/-- The command of the deepest level, if its arguments are complete. -/
def command (line : CommandLine) : Except Usage Command :=
  let input := line.inputs.getLast?.getD {}
  match line.path, line.option? "owner", input.words with
  | ["parse"], _, words => .ok (.parse (sentence words))
  | ["translate"], _, word :: words => .ok (.translate (sentence (word :: words)))
  | ["intent", "create"], some owner, word :: words =>
      .ok (.createIntent owner (sentence (word :: words)))
  | ["intent", "update"], _, id :: word :: words =>
      .ok (.updateIntent id (sentence (word :: words)))
  | ["intent", "delete"], _, [id] => .ok (.deleteIntent id)
  | ["intent", "show"], _, [id] => .ok (.showIntent id)
  | ["intent", "list"], some owner, [] => .ok (.listIntents owner)
  | ["rates", "set"], _, [currency, rate] => .ok (.setRate currency rate)
  | ["rates", "list"], _, [] => .ok .listRates
  | ["migrate"], _, [] => .ok (.migrate ("revert" ∈ input.flags))
  | ["config"], _, [] => .ok .showConfiguration
  | _, _, _ => .error .misuse

/-- Read the configuration that is asked for and the command to run. -/
def ofArguments (arguments : List String) : Except Usage (LoadRequest × Command) := do
  let line ← read 3 [] arguments
  return (line.request, ← line.command)

end CommandLine

end IntentPolicy
