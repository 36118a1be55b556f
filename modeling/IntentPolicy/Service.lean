import IntentPolicy.Failure
import IntentPolicy.Reconciliation.Execution
import IntentPolicy.Store.Repositories

namespace IntentPolicy

/-!
# The intent service

What becomes of an intent: its sentence is translated, its policies are enforced, and
what was enforced is stored.  Enforcement comes first and storage follows it, so a call
that fails part way leaves the store with exactly what had been enforced by then.
-/

/-- On whose behalf the service acts. -/
def serviceActor : String := "chainpolicy-cli"

/-- What the service works with, on a state that holds the store and all collaborators. -/
structure Service (State : Type) where
  repositories : Repositories State
  reconciler : Reconciler State
  baselines : Baselines
  correlationId : String
  emit : AuditEvent → StateM State Unit

namespace Service

variable {State : Type}

/-- A failure of the store as a failure of the service. -/
def persisted {Value : Type} (action : Action State StoreError Value) :
    Action State ServiceError Value :=
  ExceptT.adapt (fun error => .persistence error.message) action

/-- Put something on record about an intent. -/
def report (service : Service State) (intentId : String) (detail : AuditDetail) :
    StateM State Unit :=
  service.emit ⟨intentId, ⟨service.correlationId, serviceActor⟩, detail⟩

/-- Translate a sentence at the stored rates. -/
def translate (service : Service State) (text : String) :
    Action State ServiceError (Intent × List Policy) := do
  let rates ← persisted service.repositories.rateTable
  match (⟨rates, service.baselines⟩ : Translator).refine text with
  | .ok translation => return translation
  | .error error => throw (.domain (.refinement error))

/-- The intent under an identifier. -/
def find (service : Service State) (id : String) : Action State ServiceError IntentRecord := do
  match ← persisted (service.repositories.findIntent id) with
  | some intent => return intent
  | none => throw (.domain (.intentNotFound id))

/-- Carry out an execution and put on record what it did. -/
def enforce (service : Service State) (intentId : String) (execution : StateM State Execution) :
    StateM State Execution := do
  let done ← execution
  done.auditDetails.forM (service.report intentId)
  return done

/-- Store one change; a record to be deleted may be gone already. -/
def storeStep (service : Service State) : AppliedStep → Action State StoreError Unit
  | .created record | .updated record => service.repositories.saveRecord record
  | .deleted record =>
      tryCatch (service.repositories.deleteRecord record.id) fun error =>
        match error with
        | .recordNotFound _ => pure ()
        | error => throw error

/-- Store every change of an execution, then fail if the execution was interrupted. -/
def settle (service : Service State) (execution : Execution) :
    Action State ServiceError (List PolicyRecord) := do
  persisted (execution.applied.forM service.storeStep)
  match execution.interruption with
  | none => return execution.records
  | some interruption => throw (.integration (execution.failureMessage interruption))

/--
Enforce and store a new intent.  The intent is stored once anything has been enforced
for it, so its records have an intent to belong to.
-/
def create (service : Service State) (owner text : String) (now : Instant) :
    Action State ServiceError IntentView := do
  let owner := trimmed owner
  if owner.isEmpty then
    throw (.domain (.invariantViolation "intent owner must not be empty"))
  let (_, policies) ← service.translate text
  let id ← service.reconciler.newId
  let intent : IntentRecord := ⟨id, owner, trimmed text, now, now⟩
  let execution ← service.enforce id (service.reconciler.enroll id policies now)
  if execution.interruption.isNone || !execution.applied.isEmpty then
    persisted (service.repositories.saveIntent intent)
  let records ← service.settle execution
  service.report id (.intentCreated records.length)
  return ⟨intent, records⟩

/-- Replace the text of an intent; it changes only once all its policies are enforced. -/
def update (service : Service State) (id text : String) (now : Instant) :
    Action State ServiceError IntentView := do
  let intent ← service.find id
  let (_, policies) ← service.translate text
  let held ← persisted (service.repositories.listRecords id)
  let execution ← service.enforce id (service.reconciler.reconcile id held policies now)
  let records ← service.settle execution
  let updated : IntentRecord := { intent with text := trimmed text, updatedAt := now }
  persisted (service.repositories.saveIntent updated)
  service.report id (.intentUpdated records.length)
  return ⟨updated, records⟩

/-- Withdraw the policies of an intent and delete it; the number of policies is given. -/
def delete (service : Service State) (id : String) : Action State ServiceError Nat := do
  let _ ← service.find id
  let held ← persisted (service.repositories.listRecords id)
  let execution ← service.enforce id (service.reconciler.retire id held)
  if execution.interruption.isSome then
    let _ ← service.settle execution
  let _ ← persisted (service.repositories.deleteRecords id)
  let _ ← persisted (service.repositories.deleteIntent id)
  service.report id (.intentDeleted execution.applied.length)
  return execution.applied.length

/-- One intent with its policies. -/
def view (service : Service State) (id : String) : Action State ServiceError IntentView := do
  let intent ← service.find id
  return ⟨intent, ← persisted (service.repositories.listRecords id)⟩

/-- The intents of an owner with their policies, oldest first. -/
def list (service : Service State) (owner : String) :
    Action State ServiceError (List IntentView) := do
  let intents ← persisted (service.repositories.listIntents (trimmed owner))
  intents.mapM fun intent => do
    return ⟨intent, ← persisted (service.repositories.listRecords intent.id)⟩

end Service

end IntentPolicy
