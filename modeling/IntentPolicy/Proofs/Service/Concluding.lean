import IntentPolicy.Proofs.Service.Enrolling
import IntentPolicy.Proofs.Service.Storing

namespace IntentPolicy

/-!
# How an operation ends

An operation that is not refused carries out a plan for the records of one intent, puts on record
what was changed and how that ended, and stores the changes.
-/

/-- The event tells how an operation ended, by a call that failed or for the intent as a whole. -/
def AuditDetail.isClosing : AuditDetail → Bool
  | .policyCreated .. => false
  | .policyUpdated .. => false
  | .policyDeleted .. => false
  | .enforcementFailed .. => true
  | .intentCreated _ => true
  | .intentUpdated _ => true
  | .intentDeleted _ => true

theorem AppliedStep.isClosing_auditDetail
    (change : AppliedStep) :
    change.auditDetail.isClosing = false := by
  cases change <;> rfl

namespace Reconciler

variable {Client : Type} {deployment : Deployment Client} {intentId : String} {now : Instant}
  {before after : MemoryWorld Client}

/-- Carrying out a step puts nothing on record by itself. -/
theorem StepRun.events
    {created : Nat}
    {step : PlanStep}
    {result : Except Interruption (Option PolicyRecord × Option AppliedStep)}
    (run : deployment.reconciler.StepRun intentId now created before step result after) :
    after.events = before.events := by
  cases run with
  | deleted _ answered =>
      obtain ⟨client, -, rfl⟩ := Action.of_run_within answered
      rfl
  | dropped => rfl
  | unchanged => rfl
  | updated _ answered =>
      obtain ⟨client, -, rfl⟩ := Action.of_run_within answered
      rfl
  | registered _ answered =>
      obtain ⟨client, -, rfl⟩ := Action.of_run_within answered
      rfl
  | created answered named =>
      obtain ⟨client, -, rfl⟩ := Action.of_run_within answered
      obtain ⟨-, rfl⟩ := Prod.mk.inj named
      rfl
  | refused _ answered =>
      obtain ⟨client, -, rfl⟩ := Deployment.of_refuses answered
      rfl

theorem PlanRun.events
    {steps : List PlanStep}
    {execution final : Execution}
    (run : deployment.reconciler.PlanRun intentId now steps execution before final after) :
    after.events = before.events := by
  induction run with
  | finished => rfl
  | stepped run _ inductionHypothesis => exact inductionHypothesis.trans run.events
  | stopped run => exact run.events

end Reconciler

namespace Deployment

variable {Client : Type} {deployment : Deployment Client}
  {start before after : MemoryWorld Client} {id text : String} {now : Instant}
  {old : List PolicyRecord}

/-- What an operation begins with: the records of its intent, or none and a new identifier. -/
inductive Begins (deployment : Deployment Client) (before : MemoryWorld Client) :
    String → MemoryWorld Client → List PolicyRecord → Prop
  | anew :
      Begins deployment before (deployment.identifiers before.drawn)
        { before with drawn := before.drawn + 1 } []
  | listed (id : String) : Begins deployment before id before (before.store.listRecords id)

/-- To begin is to draw an identifier at most. -/
theorem Begins.frame
    (begins : deployment.Begins before id start old) :
    start.store = before.store ∧ start.client = before.client ∧ start.events = before.events ∧
      before.drawn ≤ start.drawn := by
  cases begins with
  | anew => exact ⟨rfl, rfl, rfl, Nat.le_succ _⟩
  | listed => exact ⟨rfl, rfl, rfl, Nat.le_refl _⟩

/-- All that an operation on one intent can do, by what it is to tell at its end. -/
inductive Concludes (deployment : Deployment Client) (before : MemoryWorld Client)
    (id : String) : Except ServiceError AuditDetail → MemoryWorld Client → Prop
  | refused {error : DomainError} :
      Concludes deployment before id (.error (.domain error)) before
  | interrupted {start reached : MemoryWorld Client} {old : List PolicyRecord}
      {policies : List Policy} {now : Instant} {execution : Execution}
      {interruption : Interruption} {store : MemoryStore}
      (begins : deployment.Begins before id start old)
      (ran : deployment.reconciler.reconcile id old policies now start = (execution, reached))
      (stopped : execution.interruption = some interruption)
      (stored : store.records = (before.store.withChanges execution.applied).records) :
      Concludes deployment before id (interruptedAnswer execution interruption)
        (deployment.reporting { reached with store := store } id execution.auditDetails)
  | completed {start reached : MemoryWorld Client} {old : List PolicyRecord}
      {policies : List Policy} {now : Instant} {execution : Execution} {closing : AuditDetail}
      {store : MemoryStore}
      (begins : deployment.Begins before id start old)
      (ran : deployment.reconciler.reconcile id old policies now start = (execution, reached))
      (finished : execution.interruption = none)
      (stored : store.records = (before.store.withChanges execution.applied).records)
      (isClosing : closing.isClosing = true) :
      Concludes deployment before id (.ok closing)
        (deployment.reporting { reached with store := store } id
          (execution.auditDetails ++ [closing]))

/-- An operation that is not refused carries out a plan and stores what was applied. -/
theorem Concludes.refused_or_ran
    {answer : Except ServiceError AuditDetail}
    (concludes : deployment.Concludes before id answer after) :
    after = before ∨ ∃ start old policies now execution reached,
      deployment.Begins before id start old ∧
        deployment.reconciler.reconcile id old policies now start = (execution, reached) ∧
        after.client = reached.client ∧
        after.store.records = (before.store.withChanges execution.applied).records := by
  cases concludes with
  | refused => exact Or.inl rfl
  | interrupted begins ran _ stored => exact Or.inr ⟨_, _, _, _, _, _, begins, ran, rfl, stored⟩
  | completed begins ran _ stored => exact Or.inr ⟨_, _, _, _, _, _, begins, ran, rfl, stored⟩

/-- What an operation begins with are stored records of its intent. -/
theorem Begins.stored
    (begins : deployment.Begins before id start old) :
    ∀ record ∈ old, record ∈ before.store.records ∧ record.intentId = id := by
  cases begins with
  | anew => simp
  | listed => exact fun _ listed => MemoryStore.mem_listRecords.mp listed

theorem CreateRun.concludes
    {owner : String}
    {answer : Except ServiceError IntentView}
    (run : deployment.CreateRun owner text now before answer after) :
    deployment.Concludes before (deployment.identifiers before.drawn)
      (answer.map fun view => .intentCreated view.policies.length) after := by
  cases run with
  | refused => exact .refused
  | interrupted named _ _ ran stopped =>
      subst named
      refine .interrupted .anew ran stopped (MemoryStore.records_withChanges ?_ _)
      rw [(Reconciler.planRun_of_reconcile ran).untouched.1]
      split <;> rfl
  | completed named _ _ ran finished =>
      subst named
      refine .completed .anew ran finished (MemoryStore.records_withChanges ?_ _) rfl
      rw [(Reconciler.planRun_of_reconcile ran).untouched.1]
      rfl

theorem UpdateRun.concludes
    {answer : Except ServiceError IntentView}
    (run : deployment.UpdateRun id text now before answer after) :
    deployment.Concludes before id
      (answer.map fun view => .intentUpdated view.policies.length) after := by
  cases run with
  | refused => exact .refused
  | interrupted _ _ ran stopped =>
      have sameStore := (Reconciler.planRun_of_reconcile ran).untouched.1
      exact .interrupted (.listed id) ran stopped
        (MemoryStore.records_withChanges (congrArg _ sameStore) _)
  | completed _ _ ran finished =>
      have sameStore := (Reconciler.planRun_of_reconcile ran).untouched.1
      exact .completed (.listed id) ran finished
        (MemoryStore.records_withChanges (congrArg _ sameStore) _) rfl

theorem DeleteRun.concludes
    {answer : Except ServiceError Nat}
    (run : deployment.DeleteRun id before answer after)
    (distinctIds : (before.store.records.map (·.id)).Nodup) :
    deployment.Concludes before id (answer.map .intentDeleted) after := by
  cases run with
  | refused => exact .refused
  | interrupted _ ran stopped =>
      have sameStore := (Reconciler.planRun_of_retire ran).untouched.1
      rw [Reconciler.retire_eq_reconcile] at ran
      exact .interrupted (.listed id) ran stopped
        (MemoryStore.records_withChanges (congrArg _ sameStore) _)
  | completed _ ran finished =>
      have planned := Reconciler.planRun_of_retire ran
      have applied := (planned.carried_of_finished finished).applied_of_deletes
      rw [Reconciler.retire_eq_reconcile] at ran
      refine .completed (.listed id) ran finished ?_ rfl
      -- The records go in bulk, but each of them has been withdrawn.
      rw [applied, List.nil_append, MemoryStore.records_of_retired distinctIds]
      exact congrArg (fun store => (store.deleteRecords id).records) planned.untouched.1

/-- What a call is to tell at its end, or why it failed. -/
def conclusion? (deployment : Deployment Client) (world : MemoryWorld Client) :
    ServiceCall → Option (Except ServiceError AuditDetail)
  | .create owner text now =>
      some (((deployment.service.create owner text now).run world).1.map fun view =>
        .intentCreated view.policies.length)
  | .update id text now =>
      some (((deployment.service.update id text now).run world).1.map fun view =>
        .intentUpdated view.policies.length)
  | .delete id => some (((deployment.service.delete id).run world).1.map .intentDeleted)
  | .saveRate _ => none

/-- A call about an intent does what one of the cases says. -/
theorem concludes_serve
    (deployment : Deployment Client)
    {call : ServiceCall}
    (distinctIds : (before.store.records.map (·.id)).Nodup)
    (subject : call.subject? (deployment.identifiers before.drawn) = some id) :
    ∃ answer, deployment.conclusion? before call = some answer ∧
      deployment.Concludes before id answer (deployment.serve before call) := by
  cases call with
  | create owner text now =>
      obtain rfl := Option.some.inj subject
      exact ⟨_, rfl, (deployment.createRun owner text now before).concludes⟩
  | update other text now =>
      obtain rfl := Option.some.inj subject
      exact ⟨_, rfl, (deployment.updateRun other text now before).concludes⟩
  | delete other =>
      obtain rfl := Option.some.inj subject
      exact ⟨_, rfl, (deployment.deleteRun other before).concludes distinctIds⟩
  | saveRate rate => cases subject

theorem concludes_of_conclusion?
    (deployment : Deployment Client)
    {call : ServiceCall}
    {answer : Except ServiceError AuditDetail}
    (distinctIds : (before.store.records.map (·.id)).Nodup)
    (answered : deployment.conclusion? before call = some answer) :
    ∃ id, deployment.Concludes before id answer (deployment.serve before call) := by
  cases subject : call.subject? (deployment.identifiers before.drawn) with
  | none =>
      obtain ⟨rate, rfl⟩ := ServiceCall.eq_saveRate_of_subject? subject
      cases answered
  | some id =>
      obtain ⟨other, otherAnswered, concludes⟩ := deployment.concludes_serve distinctIds subject
      obtain rfl := Option.some.inj (answered.symm.trans otherAnswered)
      exact ⟨id, concludes⟩

end Deployment

end IntentPolicy
