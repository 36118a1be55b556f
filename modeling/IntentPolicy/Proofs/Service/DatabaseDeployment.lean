import IntentPolicy.Proofs.Reconciliation.Likeness
import IntentPolicy.Proofs.Service.Storing

namespace IntentPolicy

/-!
# The service over a database

The service over the relational store, with any client of enforcement.  Its world tracks a world
in memory: what one stores the other holds, and enforcement and identifiers stand where they
stand there.  Reading, enforcing and writing on both sides keeps this so.
-/

/-- What a service over a database works on. -/
structure DatabaseWorld (Client : Type) where
  database : Database
  client : Client
  drawn : Nat := 0
  events : List AuditEvent := []

/-- The database as a part of the world. -/
def DatabaseWorld.databasePart {Client : Type} : Part (DatabaseWorld Client) Database where
  get := DatabaseWorld.database
  set database world := { world with database := database }

/-- What an action does to the database, it does to the world and leaves the rest. -/
theorem DatabaseWorld.run_of_database
    {Client Value : Type}
    {action : Action Database StoreError Value}
    {world : DatabaseWorld Client}
    {result : Except StoreError Value}
    {reached : Database}
    (ran : action.run world.database = (result, reached)) :
    (action.within databasePart).run world = (result, { world with database := reached }) := by
  rw [Action.run_within]
  simp only [databasePart, ran]

/-- The client of enforcement as a part of the world. -/
def DatabaseWorld.clientPart {Client : Type} : Part (DatabaseWorld Client) Client where
  get := DatabaseWorld.client
  set client world := { world with client := client }

namespace Deployment

variable {Client : Type}

/-- What reconciliation works with when a database is behind it. -/
def databaseReconciler (deployment : Deployment Client) : Reconciler (DatabaseWorld Client) where
  enforcement := deployment.enforcement.within DatabaseWorld.clientPart
  newId := fun world =>
    (deployment.identifiers world.drawn, { world with drawn := world.drawn + 1 })

/-- The service that is set up over a database. -/
def databaseService (deployment : Deployment Client) : Service (DatabaseWorld Client) where
  repositories := Database.repositories.within DatabaseWorld.databasePart
  reconciler := deployment.databaseReconciler
  baselines := deployment.baselines
  correlationId := deployment.correlationId
  emit event := fun world => ((), { world with events := world.events ++ [event] })

end Deployment

/-- A world over a database holds what a sound world in memory holds. -/
structure Tracks {Client : Type} (identifiers : Nat → String) (memory : MemoryWorld Client)
    (world : DatabaseWorld Client) : Prop where
  holds : world.database.Holds memory.store
  client : world.client = memory.client
  drawn : world.drawn = memory.drawn
  sound : memory.IsSound identifiers

variable {Client : Type} {identifiers : Nat → String} {memory : MemoryWorld Client}
  {world : DatabaseWorld Client} {faults : Prop}

namespace Tracks

theorem fresh
    (identifiers : Nat → String)
    (client : Client)
    (drawn : Nat)
    (events otherEvents : List AuditEvent) :
    Tracks identifiers ⟨{}, client, drawn, events⟩ ⟨.fresh, client, drawn, otherEvents⟩ :=
  ⟨.fresh, rfl, rfl, .of_empty rfl rfl⟩

theorem storable
    {record : PolicyRecord}
    (tracks : Tracks identifiers memory world)
    (stored : record ∈ memory.store.records) :
    record.IsStorable := by
  obtain ⟨tables, -, holds⟩ := tracks.holds
  exact holds.records.storable record stored

theorem storable_of_found
    {id : String}
    {intent : IntentRecord}
    (tracks : Tracks identifiers memory world)
    (found : memory.store.findIntent id = some intent) :
    intent.IsStorable := by
  obtain ⟨tables, -, holds⟩ := tracks.holds
  exact holds.intents.storable intent (List.mem_of_find?_eq_some found)

/-- What the client does concerns nothing else. -/
theorem withClient
    (tracks : Tracks identifiers memory world)
    (client : Client) :
    Tracks identifiers { memory with client := client } { world with client := client } :=
  ⟨tracks.holds, rfl, tracks.drawn, tracks.sound.of_sublist (Nat.le_refl _) (.refl _) (.refl _)⟩

theorem withDrawn
    (tracks : Tracks identifiers memory world) :
    Tracks identifiers { memory with drawn := memory.drawn + 1 }
      { world with drawn := world.drawn + 1 } :=
  ⟨tracks.holds, tracks.client, congrArg (· + 1) tracks.drawn,
    tracks.sound.of_sublist (Nat.le_succ _) (.refl _) (.refl _)⟩

/-- Events are not stored. -/
theorem withEvents
    (tracks : Tracks identifiers memory world)
    (events otherEvents : List AuditEvent) :
    Tracks identifiers { memory with events := events } { world with events := otherEvents } :=
  ⟨tracks.holds, tracks.client, tracks.drawn,
    tracks.sound.of_sublist (Nat.le_refl _) (.refl _) (.refl _)⟩

section Repositories

variable {Held Value : Type} {value : Value} {held : Held}
  {memoryAction : Action MemoryStore StoreError Held} {action : Action Database StoreError Value}

/-- What is read from the database is what it gives back of what is held in memory. -/
theorem reads
    {readable : Prop}
    (tracks : Tracks identifiers memory world)
    (looked : memoryAction.run memory.store = (.ok held, memory.store))
    (reads : Database.Reads readable value world.database (action.run world.database))
    (canRead : faults ∨ readable) :
    Follows faults (Tracks identifiers)
      (fun found read left => found = held ∧ read = value ∧ memory = left ∧ readable)
      ((memoryAction.within MemoryWorld.storePart).run memory)
      ((action.within DatabaseWorld.databasePart).run world) := by
  have memoryLooked : (memoryAction.within MemoryWorld.storePart).run memory =
      (.ok held, memory) := by
    rw [Action.run_within]
    simp only [MemoryWorld.storePart, looked]
  rw [memoryLooked, Action.run_within]
  simp only [DatabaseWorld.databasePart]
  generalize action.run world.database = outcome at reads
  cases reads with
  | answered isReadable => exact .answered ⟨rfl, rfl, rfl, isReadable⟩ tracks
  | unreadable notReadable =>
      rcases canRead with mayFault | isReadable
      · exact .faulted mayFault tracks
      · exact (notReadable isReadable).elim

/-- What is written to both stores is held by both. -/
theorem writes
    {changed : MemoryStore}
    (tracks : Tracks identifiers memory world)
    (changes : memoryAction.run memory.store = (.ok held, changed))
    (saves : ∃ saved, action.run world.database = (.ok value, saved) ∧ saved.Holds changed)
    (sound : MemoryWorld.IsSound identifiers { memory with store := changed }) :
    Follows faults (Tracks identifiers)
      (fun done saved left => done = held ∧ saved = value ∧
        { memory with store := changed } = left)
      ((memoryAction.within MemoryWorld.storePart).run memory)
      ((action.within DatabaseWorld.databasePart).run world) := by
  obtain ⟨saved, saves, holds⟩ := saves
  rw [Action.run_within, Action.run_within]
  simp only [MemoryWorld.storePart, changes, DatabaseWorld.databasePart, saves]
  exact .answered ⟨rfl, rfl, rfl⟩ ⟨holds, tracks.client, tracks.drawn, sound⟩

end Repositories

/-- The same is asked of the same client. -/
theorem asks
    {Value : Type}
    (tracks : Tracks identifiers memory world)
    (action : Action Client EnforcementError Value) :
    Follows False (Tracks identifiers) (fun answer other _ => answer = other)
      ((action.within MemoryWorld.clientPart).run memory)
      ((action.within DatabaseWorld.clientPart).run world) := by
  rw [Action.run_within, Action.run_within]
  simp only [MemoryWorld.clientPart, DatabaseWorld.clientPart, tracks.client]
  rcases action.run memory.client with ⟨error | answer, client⟩
  · exact .failed (tracks.withClient client)
  · exact .answered rfl (tracks.withClient client)

end Tracks

namespace Deployment

variable {deployment : Deployment Client}

theorem databaseService_baselines :
    deployment.databaseService.baselines = deployment.baselines :=
  rfl

theorem databaseService_reconciler :
    deployment.databaseService.reconciler = deployment.databaseReconciler :=
  rfl

theorem reconciler_matches
    (deployment : Deployment Client) :
    deployment.reconciler.Matches (Tracks deployment.identifiers) deployment.databaseReconciler
    where
  create policy _ _ tracks := tracks.asks (deployment.enforcement.create policy)
  update externalId policy _ _ tracks :=
    (tracks.asks (deployment.enforcement.update externalId policy)).weaken fun _ _ _ _ => trivial
  delete externalId _ _ tracks :=
    (tracks.asks (deployment.enforcement.delete externalId)).weaken fun _ _ _ _ => trivial
  newId _ _ tracks := ⟨congrArg deployment.identifiers tracks.drawn.symm, tracks.withDrawn⟩

/-- Events are put on record in order, and nothing else is done. -/
theorem databaseReports_run
    (intentId : String)
    (details : List AuditDetail) :
    details.forM (deployment.databaseService.report intentId) world =
      ((), { world with events := world.events ++ details.map (deployment.event intentId) }) := by
  induction details generalizing world with
  | nil => simp; rfl
  | cons detail details inductionHypothesis =>
      have emitted : deployment.databaseService.report intentId detail world =
          ((), { world with events := world.events ++ [deployment.event intentId detail] }) := rfl
      rw [List.forM, Action.bind_apply, emitted, inductionHypothesis]
      simp

/-- What an execution did is put on record behind it. -/
theorem databaseEnforce_run
    {execution : Execution}
    {reached : DatabaseWorld Client}
    {enforcing : StateM (DatabaseWorld Client) Execution}
    (intentId : String)
    (ran : enforcing world = (execution, reached)) :
    (liftM (deployment.databaseService.enforce intentId enforcing) :
        Action (DatabaseWorld Client) ServiceError Execution).run world =
      (.ok execution, { reached with
        events := reached.events ++ execution.auditDetails.map (deployment.event intentId) }) := by
  rw [Action.run_lift, Service.enforce, Action.bind_apply, ran, Action.bind_apply,
    databaseReports_run]
  rfl

end Deployment

end IntentPolicy
