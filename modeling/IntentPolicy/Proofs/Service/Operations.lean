import IntentPolicy.Proofs.Service.Deployment

namespace IntentPolicy

/-!
# What an operation can do

An operation is refused before anything is changed, or interrupted by a call that fails, or
completed.  Each case says what the operation answers and which world it leaves.
-/

namespace Deployment

variable {Client : Type}

/-- The answer of an operation that was cut short by a call. -/
def interruptedAnswer {Value : Type} (execution : Execution) (interruption : Interruption) :
    Except ServiceError Value :=
  .error (.integration (execution.failureMessage interruption))

/-- All that creating an intent can do. -/
inductive CreateRun (deployment : Deployment Client) (owner text : String) (now : Instant)
    (before : MemoryWorld Client) :
    Except ServiceError IntentView → MemoryWorld Client → Prop
  | refused {error : DomainError} :
      CreateRun deployment owner text now before (.error (.domain error)) before
  | interrupted {id : String} {sentence : Intent} {policies : List Policy} {entered : IntentRecord}
      {execution : Execution} {interruption : Interruption} {reached : MemoryWorld Client}
      (named : id = deployment.identifiers before.drawn)
      (entry : entered = ⟨id, trimmed owner, trimmed text, now, now⟩)
      (translated : deployment.translation before.store text = .ok (sentence, policies))
      (ran : deployment.reconciler.enroll id policies now
        { before with drawn := before.drawn + 1 } = (execution, reached))
      (stopped : execution.interruption = some interruption) :
      CreateRun deployment owner text now before (interruptedAnswer execution interruption)
        (deployment.reporting
          { reached with
            store :=
              (if execution.applied.isEmpty then reached.store
                else reached.store.saveIntent entered).withChanges execution.applied }
          id execution.auditDetails)
  | completed {id : String} {sentence : Intent} {policies : List Policy} {entered : IntentRecord}
      {execution : Execution} {reached : MemoryWorld Client}
      (named : id = deployment.identifiers before.drawn)
      (entry : entered = ⟨id, trimmed owner, trimmed text, now, now⟩)
      (translated : deployment.translation before.store text = .ok (sentence, policies))
      (ran : deployment.reconciler.enroll id policies now
        { before with drawn := before.drawn + 1 } = (execution, reached))
      (finished : execution.interruption = none) :
      CreateRun deployment owner text now before (.ok ⟨entered, execution.records⟩)
        (deployment.reporting
          { reached with
            store := (reached.store.saveIntent entered).withChanges execution.applied }
          id (execution.auditDetails ++ [.intentCreated execution.records.length]))

/-- All that updating an intent can do. -/
inductive UpdateRun (deployment : Deployment Client) (id text : String) (now : Instant)
    (before : MemoryWorld Client) :
    Except ServiceError IntentView → MemoryWorld Client → Prop
  | refused {error : DomainError} :
      UpdateRun deployment id text now before (.error (.domain error)) before
  | interrupted {held : IntentRecord} {sentence : Intent} {policies : List Policy}
      {execution : Execution} {interruption : Interruption} {reached : MemoryWorld Client}
      (found : before.store.findIntent id = some held)
      (translated : deployment.translation before.store text = .ok (sentence, policies))
      (ran : deployment.reconciler.reconcile id (before.store.listRecords id) policies now before =
        (execution, reached))
      (stopped : execution.interruption = some interruption) :
      UpdateRun deployment id text now before (interruptedAnswer execution interruption)
        (deployment.reporting
          { reached with store := reached.store.withChanges execution.applied }
          id execution.auditDetails)
  | completed {held : IntentRecord} {sentence : Intent} {policies : List Policy}
      {execution : Execution} {reached : MemoryWorld Client}
      (found : before.store.findIntent id = some held)
      (translated : deployment.translation before.store text = .ok (sentence, policies))
      (ran : deployment.reconciler.reconcile id (before.store.listRecords id) policies now before =
        (execution, reached))
      (finished : execution.interruption = none) :
      UpdateRun deployment id text now before
        (.ok ⟨{ held with text := trimmed text, updatedAt := now }, execution.records⟩)
        (deployment.reporting
          { reached with
            store := (reached.store.withChanges execution.applied).saveIntent
              { held with text := trimmed text, updatedAt := now } }
          id (execution.auditDetails ++ [.intentUpdated execution.records.length]))

/-- All that deleting an intent can do. -/
inductive DeleteRun (deployment : Deployment Client) (id : String)
    (before : MemoryWorld Client) :
    Except ServiceError Nat → MemoryWorld Client → Prop
  | refused {error : DomainError} :
      DeleteRun deployment id before (.error (.domain error)) before
  | interrupted {held : IntentRecord}
      {execution : Execution} {interruption : Interruption} {reached : MemoryWorld Client}
      (found : before.store.findIntent id = some held)
      (ran : deployment.reconciler.retire id (before.store.listRecords id) before =
        (execution, reached))
      (stopped : execution.interruption = some interruption) :
      DeleteRun deployment id before (interruptedAnswer execution interruption)
        (deployment.reporting
          { reached with store := reached.store.withChanges execution.applied }
          id execution.auditDetails)
  | completed {held : IntentRecord} {execution : Execution} {reached : MemoryWorld Client}
      (found : before.store.findIntent id = some held)
      (ran : deployment.reconciler.retire id (before.store.listRecords id) before =
        (execution, reached))
      (finished : execution.interruption = none) :
      DeleteRun deployment id before (.ok execution.applied.length)
        (deployment.reporting
          { reached with store := (reached.store.deleteRecords id).deleteIntent id }
          id (execution.auditDetails ++ [.intentDeleted execution.applied.length]))

/-- Creating an intent does what one of the cases says. -/
theorem createRun
    (deployment : Deployment Client)
    (owner text : String)
    (now : Instant)
    (before : MemoryWorld Client) :
    deployment.CreateRun owner text now before
      ((deployment.service.create owner text now).run before).1
      ((deployment.service.create owner text now).run before).2 := by
  rw [Service.create, service_reconciler]
  cases blank : (trimmed owner).isEmpty with
  | true => exact .refused
  | false =>
      rw [if_neg Bool.false_ne_true]
      cases translated : deployment.translation before.store text with
      | error error =>
          have refused := deployment.translate_run before text
          rw [translated] at refused
          rw [Action.run_bind_error _ refused]
          exact .refused
      | ok translation =>
          obtain ⟨sentence, policies⟩ := translation
          have accepted := deployment.translate_run before text
          rw [translated] at accepted
          rw [Action.run_bind_ok _ accepted]
          have identified :
              (liftM deployment.reconciler.newId :
                  Action (MemoryWorld Client) ServiceError String).run before =
                (.ok (deployment.identifiers before.drawn),
                  { before with drawn := before.drawn + 1 }) := rfl
          dsimp only
          rw [Action.run_bind_ok _ identified]
          rcases ran : deployment.reconciler.enroll (deployment.identifiers before.drawn) policies
            now { before with drawn := before.drawn + 1 } with ⟨execution, reached⟩
          rw [Action.run_bind_ok _ (enforce_run _ ran)]
          let id := deployment.identifiers before.drawn
          let entered : IntentRecord := ⟨id, trimmed owner, trimmed text, now, now⟩
          let enforced := deployment.reporting reached id execution.auditDetails
          have saved :
              (Service.persisted (deployment.service.repositories.saveIntent entered)).run
                  enforced =
                (.ok (), { enforced with store := enforced.store.saveIntent entered }) := rfl
          cases stopped : execution.interruption with
          | none =>
              rw [Option.isNone_none, Bool.true_or, if_pos rfl, Action.run_bind_ok _ saved,
                Action.run_bind_ok _ (settle_finished stopped)]
              have completed : deployment.CreateRun owner text now before _ _ :=
                .completed rfl rfl translated ran stopped
              rw [reporting_append] at completed
              exact completed
          | some interruption =>
              have interrupted : deployment.CreateRun owner text now before _ _ :=
                .interrupted rfl rfl translated ran stopped
              -- The intent is stored first only if records that belong to it are going to be.
              cases nothing : execution.applied.isEmpty with
              | true =>
                  rw [nothing] at interrupted
                  rw [Option.isNone_some, Bool.false_or, Bool.not_true,
                    if_neg Bool.false_ne_true, Action.run_bind_error _ (settle_interrupted stopped)]
                  exact interrupted
              | false =>
                  rw [nothing] at interrupted
                  rw [Option.isNone_some, Bool.false_or, Bool.not_false, if_pos rfl,
                    Action.run_bind_ok _ saved,
                    Action.run_bind_error _ (settle_interrupted stopped)]
                  exact interrupted

theorem updateRun
    (deployment : Deployment Client)
    (id text : String)
    (now : Instant)
    (before : MemoryWorld Client) :
    deployment.UpdateRun id text now before
      ((deployment.service.update id text now).run before).1
      ((deployment.service.update id text now).run before).2 := by
  have looked := deployment.find_run before id
  rw [Service.update, service_reconciler]
  cases found : before.store.findIntent id with
  | none =>
      rw [found] at looked
      rw [Action.run_bind_error _ looked]
      exact .refused
  | some held =>
      rw [found] at looked
      rw [Action.run_bind_ok _ looked]
      have accepted := deployment.translate_run before text
      cases translated : deployment.translation before.store text with
      | error error =>
          rw [translated] at accepted
          rw [Action.run_bind_error _ accepted]
          exact .refused
      | ok translation =>
          obtain ⟨sentence, policies⟩ := translation
          rw [translated] at accepted
          rw [Action.run_bind_ok _ accepted]
          have listed :
              (Service.persisted (deployment.service.repositories.listRecords id)).run before =
                (.ok (before.store.listRecords id), before) := rfl
          dsimp only
          rw [Action.run_bind_ok _ listed]
          rcases ran : deployment.reconciler.reconcile id (before.store.listRecords id) policies
            now before with ⟨execution, reached⟩
          rw [Action.run_bind_ok _ (enforce_run _ ran)]
          cases stopped : execution.interruption with
          | none =>
              rw [Action.run_bind_ok _ (settle_finished stopped)]
              have completed : deployment.UpdateRun id text now before _ _ :=
                .completed found translated ran stopped
              rw [reporting_append] at completed
              exact completed
          | some interruption =>
              rw [Action.run_bind_error _ (settle_interrupted stopped)]
              exact .interrupted found translated ran stopped

/-- Deleting an intent stops at a call that fails, behind the changes that were applied. -/
theorem delete_run_of_stopped
    {deployment : Deployment Client}
    {id : String}
    {before reached : MemoryWorld Client}
    {held : IntentRecord}
    {execution : Execution}
    {interruption : Interruption}
    (found : before.store.findIntent id = some held)
    (ran : deployment.reconciler.retire id (before.store.listRecords id) before =
      (execution, reached))
    (stopped : execution.interruption = some interruption) :
    (deployment.service.delete id).run before =
      (interruptedAnswer execution interruption,
        deployment.reporting
          { reached with store := reached.store.withChanges execution.applied }
          id execution.auditDetails) := by
  have looked := deployment.find_run before id
  rw [found] at looked
  have listed :
      (Service.persisted (deployment.service.repositories.listRecords id)).run before =
        (.ok (before.store.listRecords id), before) := rfl
  rw [Service.delete, service_reconciler, Action.run_bind_ok _ looked,
    Action.run_bind_ok _ listed, Action.run_bind_ok _ (enforce_run _ ran), stopped,
    Option.isSome_some, if_pos rfl, Action.run_bind_error _ (settle_interrupted stopped)]
  rfl

theorem deleteRun
    (deployment : Deployment Client)
    (id : String)
    (before : MemoryWorld Client) :
    deployment.DeleteRun id before
      ((deployment.service.delete id).run before).1
      ((deployment.service.delete id).run before).2 := by
  have looked := deployment.find_run before id
  cases found : before.store.findIntent id with
  | none =>
      rw [found] at looked
      rw [Service.delete, Action.run_bind_error _ looked]
      exact .refused
  | some held =>
      rcases ran : deployment.reconciler.retire id (before.store.listRecords id) before with
        ⟨execution, reached⟩
      cases stopped : execution.interruption with
      | some interruption =>
          rw [delete_run_of_stopped found ran stopped]
          exact .interrupted found ran stopped
      | none =>
          rw [found] at looked
          have listed :
              (Service.persisted (deployment.service.repositories.listRecords id)).run before =
                (.ok (before.store.listRecords id), before) := rfl
          rw [Service.delete, service_reconciler, Action.run_bind_ok _ looked,
            Action.run_bind_ok _ listed, Action.run_bind_ok _ (enforce_run _ ran), stopped]
          have completed : deployment.DeleteRun id before _ _ := .completed found ran stopped
          rw [reporting_append] at completed
          exact completed

end Deployment

/-- What is asked of a service, and rates that are stored between the operations. -/
inductive ServiceCall where
  | create (owner text : String) (now : Instant)
  | update (id text : String) (now : Instant)
  | delete (id : String)
  | saveRate (rate : ConversionRate)

namespace Deployment

variable {Client : Type}

/-- The world behind one call, whether it was answered or failed. -/
def serve (deployment : Deployment Client) (world : MemoryWorld Client) :
    ServiceCall → MemoryWorld Client
  | .create owner text now => ((deployment.service.create owner text now).run world).2
  | .update id text now => ((deployment.service.update id text now).run world).2
  | .delete id => ((deployment.service.delete id).run world).2
  | .saveRate rate => ((deployment.service.repositories.saveRate rate).run world).2

/-- The world behind calls that are made one after the other. -/
def serveAll (deployment : Deployment Client) (calls : List ServiceCall)
    (world : MemoryWorld Client) : MemoryWorld Client :=
  calls.foldl deployment.serve world

end Deployment

end IntentPolicy
