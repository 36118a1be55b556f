import IntentPolicy.Command.Line
import IntentPolicy.Command.Parse
import IntentPolicy.DecisionPoint.Client
import IntentPolicy.Payload.Policy
import IntentPolicy.Service
import IntentPolicy.Store.Database
import IntentPolicy.Store.Place

namespace IntentPolicy

/-!
# Running commands

A command loads its configuration, opens the database, brings it up to date, and takes
up enforcement, in this order; the first step that fails is the result of the command.
What it works on is a machine: files, the databases among them, and an outside world
that supplies identifiers and carries requests.
-/

/-- What commands work on. -/
structure Machine (World : Type) where
  files : FileTree
  /-- The databases by their places in the tree of files, that in memory under no segments. -/
  databases : List (List String × Database) := []
  /-- The places of the databases that are kept with a log ahead of them. -/
  logged : List (List String) := []
  world : World

/-- A database that has been opened: its place, and whether it is only to be read. -/
structure OpenedDatabase where
  place : List String
  readOnly : Bool
  deriving Repr, DecidableEq

/-- What a command is given besides its arguments. -/
structure Surroundings (World : Type) where
  environment : Environment
  now : Instant
  correlationId : String
  newId : StateM World String
  transport : Transport World

/-- A part of a command, which may end the command with its result. -/
abbrev CommandStep (World Value : Type) : Type :=
  Action (Machine World) CommandResult Value

namespace Machine

variable {World : Type}

/-- The database at a place, empty until it is first written. -/
def databaseAt (machine : Machine World) (place : List String) : Database :=
  (machine.databases.lookup place).getD .empty

/-- Write the database at a place. -/
def storeAt (place : List String) (database : Database) (machine : Machine World) :
    Machine World :=
  { machine with
    databases := (place, database) :: machine.databases.filter (·.1 ≠ place) }

/-- The database at a place as a part of the machine. -/
def databasePart (place : List String) : Part (Machine World) Database :=
  ⟨fun machine => machine.databaseAt place, storeAt place⟩

/-- The outside world as a part of the machine. -/
def worldPart : Part (Machine World) World :=
  ⟨(·.world), fun world machine => { machine with world }⟩

/-- The greatest number of bytes in the name of a file that others can stand beside. -/
def longestName : Nat := 247

/-- The place of a file that is a database or can become one. -/
def databaseFile (machine : Machine World) (path : String) : Except OpenError (List String) :=
  match machine.files.spelledPlace? path with
  | none => .error .noSuchPlace
  | some place =>
      if machine.files.nodeAt? place.dropLast ≠ some .directory
          || longestName < (place.getLast?.getD "").utf8ByteSize then .error .noSuchPlace
      else if (machine.databases.lookup place).isSome then .ok place
      else
        match machine.files.nodeAt? place with
        | none => .ok place
        | some (.text "") => .ok place
        | some .directory => .error .noSuchPlace
        | some _ => .error .notADatabase

/-- Put a file at a place. -/
def withFile (machine : Machine World) (place : List String) (node : FileNode) : Machine World :=
  { machine with files := ⟨(place, node) :: machine.files.nodes.filter (·.1 ≠ place)⟩ }

/-- Take note that the database at a place is kept with a log. -/
def withLog (machine : Machine World) (place : List String) : Machine World :=
  { machine with logged := place :: machine.logged.filter (· ≠ place) }

/--
Open the database of a URL.  A file comes into being unless that is not allowed, and
memory is empty every time.  A database is kept with a log from the first time that it is
opened for writing by a system that can do so; from then on no other system opens it.
-/
def openDatabase (url : String) (machine : Machine World) :
    Except OpenError (OpenedDatabase × Machine World) := do
  match ← DatabasePlace.ofUrl url with
  | .memory readOnly => return (⟨[], readOnly⟩, machine.storeAt [] .empty)
  | .file path access isFixed isLogging =>
      let place ← machine.databaseFile path
      let isThere := (machine.files.nodeAt? place).isSome || (machine.databases.lookup place).isSome
      let isLogged := machine.logged.contains place
      if !isThere && access ≠ .create then throw .noSuchPlace
      else if isFixed then
        return (⟨place, true⟩, if isThere then machine else machine.withFile place (.text ""))
      else if isLogged && !isLogging then throw .noSuchPlace
      else if access = .read then
        if isLogging && !isLogged then throw .notWritable else return (⟨place, true⟩, machine)
      else
        let database := machine.databaseAt place
        let written := (machine.storeAt place database).withFile place .undecodable
        return (⟨place, false⟩, if isLogging then written.withLog place else written)

end Machine

/-- Why a command could not start. -/
inductive StartError where
  | configuration (error : ConfigurationError)
  | database (error : OpenError)
  | migration (error : MigrationError)
  | decisionPoint (error : BaseUrlError)
  deriving Repr, DecidableEq

namespace StartError

/-- The wording of what went wrong. -/
def cause : StartError → String
  | .configuration error => error.message
  | .database error => error.message
  | .migration error => error.message
  | .decisionPoint error => error.message

/-- The wording of the error, which says where opening the database broke off. -/
def message (error : StartError) : String :=
  match error with
  | .database _ => "database connection failed: " ++ error.cause
  | .migration _ => "database migration failed: " ++ error.cause
  | _ => error.cause

/-- The class of the failure. -/
def failureClass : StartError → String
  | .configuration _ => "config_validation"
  | .database _ => "db_connectivity"
  | .migration _ => "migration"
  | .decisionPoint _ => "pdp_client"

/-- The exit code of a command that failed so. -/
def exitCode : StartError → Nat
  | .configuration _ => 2
  | .database _ => 4
  | .migration _ => 5
  | .decisionPoint _ => 9

/-- The failure as the result of a command, in the words given. -/
def result (error : StartError) (command message : String) : CommandResult :=
  .failure command error.failureClass message error.exitCode .null

end StartError

namespace Surroundings

variable {World : Type}

/-- Load the configuration. -/
def configuration (surroundings : Surroundings World) (request : LoadRequest) :
    Action (Machine World) StartError Settings := do
  let machine ← get
  match request.load machine.files surroundings.environment with
  | .ok settings => return settings
  | .error error => throw (.configuration error)

/-- Open the database. -/
def database (settings : Settings) : Action (Machine World) StartError OpenedDatabase := do
  match (← get).openDatabase settings.database.url with
  | .error error => throw (.database error)
  | .ok (opened, machine) =>
      set machine
      return opened

/-- Look after the history of migrations, which a database that is only read has to have. -/
def keepHistory (opened : OpenedDatabase) : Action (Machine World) StartError Database := do
  let database := (← get).databaseAt opened.place
  if opened.readOnly then
    if database.hasHistory then return database else throw (.migration (.hindered .readOnly))
  else
    modify (Machine.storeAt opened.place database.withHistory)
    return database

/-- Apply the migration to a database. -/
def migrate (opened : OpenedDatabase) : Action (Machine World) StartError Unit := do
  let database ← keepHistory opened
  if opened.readOnly ∧ !database.isMigrated then throw (.migration (.failed .readOnly))
  else
    match database.migrate with
    | .error error => throw (.migration error)
    | .ok database => modify (Machine.storeAt opened.place database)

/-- Revert the migration of a database. -/
def revert (opened : OpenedDatabase) : Action (Machine World) StartError Unit := do
  let database ← keepHistory opened
  if opened.readOnly ∧ database.isMigrated then throw (.migration (.hindered .readOnly))
  else if !opened.readOnly then modify (Machine.storeAt opened.place database.revert)

/-- A database as repositories. -/
def repositories (opened : OpenedDatabase) : Repositories (Machine World) :=
  let store := Database.repositories.within (Machine.databasePart opened.place)
  if opened.readOnly then store.readOnly else store

/-- The means of enforcement that the settings choose. -/
def enforcement (surroundings : Surroundings World) (settings : Settings) :
    Except BaseUrlError (Enforcement (Machine World)) := do
  if settings.decisionPoint.enabled then
    let client : DecisionPoint (Machine World) :=
      { baseUrl := ← readBaseUrl settings.decisionPoint.baseUrl
        token := settings.decisionPoint.token
        windows := settings.windows
        transport := fun httpRequest machine =>
          let (response, world) := surroundings.transport httpRequest machine.world
          (response, { machine with world }) }
    return client.enforcement
  else return .disabled (Machine World)

/-- Start up: configuration, database, migration and enforcement, in this order. -/
def start (surroundings : Surroundings World) (request : LoadRequest) :
    Action (Machine World) StartError (Service (Machine World)) := do
  let settings ← surroundings.configuration request
  let opened ← database settings
  migrate opened
  match surroundings.enforcement settings with
  | .error error => throw (.decisionPoint error)
  | .ok enforcement =>
      return {
        repositories := repositories opened
        reconciler :=
          { enforcement
            newId := fun machine =>
              let (id, world) := surroundings.newId machine.world
              (id, { machine with world }) }
        baselines := settings.selection
        correlationId := surroundings.correlationId
        emit := fun _ => pure () }

/-- Start up and let the service act; both kinds of failure end the command. -/
def serve {Value : Type} (surroundings : Surroundings World) (request : LoadRequest)
    (command : String) (act : Service (Machine World) → Action (Machine World) ServiceError Value)
    (answer : Value → String × Json) : CommandStep World CommandResult := do
  let service ← ExceptT.adapt (fun error => error.result command error.message)
    (surroundings.start request)
  let value ← ExceptT.adapt (fun error => .ofError command error surroundings.correlationId)
    (act service)
  let (message, data) := answer value
  return .success command message data

/-- Start up and let the store act; its failures are shown as they are. -/
def store {Value : Type} (surroundings : Surroundings World) (request : LoadRequest)
    (command : String)
    (act : Repositories (Machine World) → Action (Machine World) StoreError Value)
    (answer : Value → String × Json) : CommandStep World CommandResult := do
  let service ← ExceptT.adapt (fun error => error.result command error.message)
    (surroundings.start request)
  let unavailable := FailureClass.serviceUnavailable
  let value ← ExceptT.adapt
    (fun error => .failure command unavailable.name error.message unavailable.exitCode .null)
    (act service.repositories)
  let (message, data) := answer value
  return .success command message data

/-- Store the value of a currency, which is checked before anything is started. -/
def setRate (surroundings : Surroundings World) (request : LoadRequest) (currency rate : String) :
    CommandStep World CommandResult :=
  match readRateEntry currency rate with
  | .error error =>
      throw (.failure "rates.set" FailureClass.badRequest.name error.message
        FailureClass.badRequest.exitCode .null)
  | .ok (known, amount) =>
      let stored : ConversionRate := ⟨known, amount, surroundings.now⟩
      surroundings.store request "rates.set" (fun store => store.saveRate stored) fun _ =>
        (s!"1 {known.code} = {amount.text} {Currency.canonical.code}", stored.payload)

/-- Apply or revert the migration, without taking up enforcement. -/
def migrateCommand (surroundings : Surroundings World) (request : LoadRequest)
    (reverting : Bool) : CommandStep World CommandResult := do
  let settings ←
    ExceptT.adapt
      (fun error => error.result "migrate" ("configuration issue: " ++ error.cause))
      (surroundings.configuration request)
  ExceptT.adapt (fun error => error.result "migrate" error.cause) do
    let opened ← database settings
    if reverting then revert opened else migrate opened
  return .success "migrate"
    (if reverting then "reverted all migrations" else "applied pending migrations") .null

/-- Show every setting with its value and the layer that it is said to come from. -/
def showConfiguration (surroundings : Surroundings World) (request : LoadRequest) :
    CommandStep World CommandResult := do
  let settings ←
    ExceptT.adapt
      (fun error => error.result "config" ("config validation failed: " ++ error.cause))
      (surroundings.configuration request)
  let files := (← get).files
  let entry (setting : Setting) : Json := .object
    [("key", .text (wordOf setting)),
      ("value", .text (settings.shown setting)),
      ("source", .text (request.source files surroundings.environment setting).text)]
  return .success "config"
    "effective config (source precedence: override > env > file > default)"
    (.array (Vocabulary.all.map entry))

/-- Run a command. -/
def perform (surroundings : Surroundings World) (request : LoadRequest) :
    Command → CommandStep World CommandResult
  | .parse sentence => return parseCommand sentence
  | .translate sentence =>
      surroundings.serve request "translate" (·.translate sentence) fun (intent, policies) =>
        let noun := if policies.length = 1 then "policy" else "policies"
        (s!"translated into {policies.length} {noun}",
          .object [("intent", intent.payload), ("policies", policiesPayload policies)])
  | .createIntent owner sentence =>
      surroundings.serve request "intent.create" (·.create owner sentence surroundings.now)
        fun view =>
          (s!"created intent {view.intent.id} with {view.policies.length} policies", view.payload)
  | .updateIntent id sentence =>
      surroundings.serve request "intent.update" (·.update id sentence surroundings.now)
        fun view =>
          (s!"updated intent {view.intent.id} to {view.policies.length} policies", view.payload)
  | .deleteIntent id =>
      surroundings.serve request "intent.delete" (·.delete id) fun retired =>
        (s!"deleted intent {id} and retired {retired} policies",
          .object [("id", .text id), ("retired", .integer retired)])
  | .showIntent id =>
      surroundings.serve request "intent.show" (·.view id) fun view =>
        (view.intent.text, view.payload)
  | .listIntents owner =>
      surroundings.serve request "intent.list" (·.list owner) fun views =>
        (s!"{views.length} intents for {trimmed owner}", .array (views.map IntentView.payload))
  | .setRate currency rate => surroundings.setRate request currency rate
  | .listRates =>
      surroundings.store request "rates.list" (·.listRates) fun rates =>
        (s!"{rates.length} stored rates", .array (rates.map ConversionRate.payload))
  | .migrate reverting => surroundings.migrateCommand request reverting
  | .showConfiguration => surroundings.showConfiguration request

/-- Run a command to its result, whichever way it ended. -/
def run (surroundings : Surroundings World) (request : LoadRequest) (command : Command) :
    StateM (Machine World) CommandResult := do
  match ← (surroundings.perform request command).run with
  | .ok result => return result
  | .error result => return result

end Surroundings

end IntentPolicy
