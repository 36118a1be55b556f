import IntentPolicy.Proofs.Reconciliation.Action
import IntentPolicy.Service
import IntentPolicy.Store.Memory

namespace IntentPolicy

/-!
# The service in memory

The service over the store in memory, with any client of enforcement.  Identifiers are
drawn from a sequence, and events are kept in the order in which they were emitted.
-/

/-- What a service in memory works on. -/
structure MemoryWorld (Client : Type) where
  store : MemoryStore
  client : Client
  drawn : Nat := 0
  events : List AuditEvent := []

/-- The store as a part of the world. -/
def MemoryWorld.storePart {Client : Type} : Part (MemoryWorld Client) MemoryStore where
  get := MemoryWorld.store
  set store world := { world with store }

/-- The client of enforcement as a part of the world. -/
def MemoryWorld.clientPart {Client : Type} : Part (MemoryWorld Client) Client where
  get := MemoryWorld.client
  set client world := { world with client }

/-- A client of enforcement that works on a part of a larger state. -/
def Enforcement.within {Whole Piece : Type} (part : Part Whole Piece)
    (enforcement : Enforcement Piece) : Enforcement Whole where
  create policy := (enforcement.create policy).within part
  update externalId policy := (enforcement.update externalId policy).within part
  delete externalId := (enforcement.delete externalId).within part

/-- The stored rates as a table. -/
def MemoryStore.rateTable (store : MemoryStore) : RateTable :=
  .ofList (store.listRates.map fun rate => (rate.currency, rate.rate))

/-- The store with one change of an execution stored. -/
def MemoryStore.withChange (store : MemoryStore) : AppliedStep → MemoryStore
  | .created record => store.saveRecord record
  | .updated record => store.saveRecord record
  | .deleted record => store.deleteRecord record.id

/-- The store with all changes of an execution stored. -/
def MemoryStore.withChanges (store : MemoryStore) (changes : List AppliedStep) : MemoryStore :=
  changes.foldl MemoryStore.withChange store

/-- Deleting a record that is not there changes nothing. -/
theorem MemoryStore.deleteRecord_of_absent
    {store : MemoryStore}
    {id : String}
    (absent : store.findRecord id = none) :
    store.deleteRecord id = store := by
  have kept : store.records.filter (·.id != id) = store.records := by
    rw [List.filter_eq_self]
    intro record member
    have otherId := List.find?_eq_none.mp absent record member
    simpa using otherId
  rw [MemoryStore.deleteRecord, kept]

/-- Deleting a record fails only where it is not there. -/
theorem MemoryStore.deleteRecord_run
    (store : MemoryStore)
    (id : String) :
    (MemoryStore.repositories.deleteRecord id).run store =
      (if (store.findRecord id).isSome then .ok () else .error (.recordNotFound id),
        store.deleteRecord id) := by
  have unfolded :
      (MemoryStore.repositories.deleteRecord id).run store =
        ExceptT.run (changing fun store : MemoryStore =>
          if (store.findRecord id).isSome then .ok ((), store.deleteRecord id)
          else .error (.recordNotFound id)) store := rfl
  rw [unfolded, changing, ExceptT.run_mk]
  cases found : store.findRecord id with
  | some record => simp
  | none => simp [MemoryStore.deleteRecord_of_absent found]

/-- What a service in memory is set up with. -/
structure Deployment (Client : Type) where
  enforcement : Enforcement Client
  identifiers : Nat → String
  baselines : Baselines
  correlationId : String

namespace Deployment

variable {Client : Type}

/-- What reconciliation works with. -/
def reconciler (deployment : Deployment Client) : Reconciler (MemoryWorld Client) where
  enforcement := deployment.enforcement.within MemoryWorld.clientPart
  newId := fun world =>
    (deployment.identifiers world.drawn, { world with drawn := world.drawn + 1 })

/-- The service that is set up. -/
def service (deployment : Deployment Client) : Service (MemoryWorld Client) where
  repositories := MemoryStore.repositories.within MemoryWorld.storePart
  reconciler := deployment.reconciler
  baselines := deployment.baselines
  correlationId := deployment.correlationId
  emit event := fun world => ((), { world with events := world.events ++ [event] })

/-- The event of a detail about an intent. -/
def event (deployment : Deployment Client) (intentId : String) (detail : AuditDetail) :
    AuditEvent :=
  ⟨intentId, ⟨deployment.correlationId, serviceActor⟩, detail⟩

/-- What a sentence is translated to at the stored rates. -/
def translation (deployment : Deployment Client) (store : MemoryStore) (text : String) :
    Except RefinementError (Intent × List Policy) :=
  (⟨store.rateTable, deployment.baselines⟩ : Translator).refine text

variable {deployment : Deployment Client} {world : MemoryWorld Client}

theorem service_baselines : deployment.service.baselines = deployment.baselines :=
  rfl

theorem service_reconciler : deployment.service.reconciler = deployment.reconciler :=
  rfl

/-- Translating looks at the stored rates and changes nothing. -/
theorem translate_run
    (deployment : Deployment Client)
    (world : MemoryWorld Client)
    (text : String) :
    (deployment.service.translate text).run world =
      ((deployment.translation world.store text).mapError fun error =>
        .domain (.refinement error), world) := by
  have ranRates :
      (Service.persisted deployment.service.repositories.rateTable).run world =
        (.ok world.store.rateTable, world) := rfl
  rw [Service.translate, Action.run_bind_ok _ ranRates, service_baselines, translation]
  cases (⟨world.store.rateTable, deployment.baselines⟩ : Translator).refine text <;> rfl

theorem find_run
    (deployment : Deployment Client)
    (world : MemoryWorld Client)
    (id : String) :
    (deployment.service.find id).run world =
      (match world.store.findIntent id with
        | some intent => .ok intent
        | none => .error (.domain (.intentNotFound id)), world) := by
  have found :
      (Service.persisted (deployment.service.repositories.findIntent id)).run world =
        (.ok (world.store.findIntent id), world) := rfl
  rw [Service.find, Action.run_bind_ok _ found]
  cases world.store.findIntent id <;> rfl

/-- Storing a change goes through, also where the record to be deleted is gone. -/
theorem storeStep_run
    (change : AppliedStep) :
    (deployment.service.storeStep change).run world =
      (.ok (), { world with store := world.store.withChange change }) := by
  cases change with
  | created record => rfl
  | updated record => rfl
  | deleted record =>
      have answered :
          (deployment.service.repositories.deleteRecord record.id).run world =
            (if (world.store.findRecord record.id).isSome then .ok ()
              else .error (.recordNotFound record.id),
              { world with store := world.store.deleteRecord record.id }) := by
        change ((MemoryStore.repositories.deleteRecord record.id).within _).run world = _
        rw [Action.run_within]
        simp only [MemoryWorld.storePart, MemoryStore.deleteRecord_run]
      rw [Service.storeStep]
      cases found : world.store.findRecord record.id with
      | some other =>
          rw [found] at answered
          exact Action.run_tryCatch_ok _ answered
      | none =>
          rw [found] at answered
          rw [Action.run_tryCatch_error _ answered]
          rfl

theorem storeSteps_run
    (changes : List AppliedStep) :
    (changes.forM deployment.service.storeStep).run world =
      (.ok (), { world with store := world.store.withChanges changes }) := by
  induction changes generalizing world with
  | nil => rfl
  | cons change changes inductionHypothesis =>
      rw [List.forM, Action.run_bind_ok _ (storeStep_run change), inductionHypothesis]
      rfl

/-- Events are put on record in order. -/
theorem reports_run
    (intentId : String)
    (details : List AuditDetail) :
    details.forM (deployment.service.report intentId) world =
      ((), { world with events := world.events ++ details.map (deployment.event intentId) }) := by
  induction details generalizing world with
  | nil => simp; rfl
  | cons detail details inductionHypothesis =>
      have emitted : deployment.service.report intentId detail world =
          ((), { world with events := world.events ++ [deployment.event intentId detail] }) := rfl
      rw [List.forM, Action.bind_apply, emitted, inductionHypothesis]
      simp

/-- The world with the events of what was done for an intent behind the events so far. -/
def reporting (deployment : Deployment Client) (world : MemoryWorld Client) (intentId : String)
    (details : List AuditDetail) : MemoryWorld Client :=
  { world with events := world.events ++ details.map (deployment.event intentId) }

theorem reporting_append
    (intentId : String)
    (details behind : List AuditDetail) :
    deployment.reporting world intentId (details ++ behind) =
      deployment.reporting (deployment.reporting world intentId details) intentId behind := by
  simp [reporting]

/-- What an execution did is put on record behind it. -/
theorem enforce_run
    {execution : Execution}
    {reached : MemoryWorld Client}
    {enforcing : StateM (MemoryWorld Client) Execution}
    (intentId : String)
    (ran : enforcing world = (execution, reached)) :
    (liftM (deployment.service.enforce intentId enforcing) :
        Action (MemoryWorld Client) ServiceError Execution).run world =
      (.ok execution, deployment.reporting reached intentId execution.auditDetails) := by
  rw [Action.run_lift, Service.enforce, Action.bind_apply, ran, Action.bind_apply, reports_run]
  rfl

/-- The changes of an execution are stored behind it. -/
theorem persist_run
    (changes : List AppliedStep) :
    (Service.persisted (changes.forM deployment.service.storeStep)).run world =
      (.ok (), { world with store := world.store.withChanges changes }) := by
  rw [Service.persisted, Action.run_adapt, storeSteps_run]
  rfl

/-- The changes of a finished execution are stored, and its records handed on. -/
theorem settle_finished
    {execution : Execution}
    (finished : execution.interruption = none) :
    (deployment.service.settle execution).run world =
      (.ok execution.records,
        { world with store := world.store.withChanges execution.applied }) := by
  rw [Service.settle, Action.run_bind_ok _ (persist_run execution.applied), finished]
  rfl

/-- The changes of an interrupted execution are stored before the failure is handed on. -/
theorem settle_interrupted
    {execution : Execution}
    {interruption : Interruption}
    (stopped : execution.interruption = some interruption) :
    (deployment.service.settle execution).run world =
      (.error (.integration (execution.failureMessage interruption)),
        { world with store := world.store.withChanges execution.applied }) := by
  rw [Service.settle, Action.run_bind_ok _ (persist_run execution.applied), stopped]
  rfl

end Deployment

end IntentPolicy
