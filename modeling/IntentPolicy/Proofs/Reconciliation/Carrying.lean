import IntentPolicy.Proofs.Reconciliation.Action
import IntentPolicy.Reconciliation.Execution

namespace IntentPolicy

/-!
# Carrying out step by step

What one step asks of enforcement and what it leaves, whatever the client answers, and
what a whole plan leaves that is carried out until a call fails.
-/

/-- What is asked of enforcement. -/
inductive EnforcementCall where
  | create (policy : Policy)
  | update (externalId : String) (policy : Policy)
  | delete (externalId : String)
  deriving DecidableEq

namespace PlanStep

/-- The record that a step is about. -/
def record? : PlanStep → Option PolicyRecord
  | .delete record => some record
  | .update record _ => some record
  | .unchanged record => some record
  | .create _ => none

/-- A record that stays is what its step is about. -/
theorem record?_keep
    (record : PolicyRecord)
    (policy : Policy) :
    (keep record policy).record? = some record := by
  rw [keep]
  split <;> rfl

theorem isDelete_keep
    (record : PolicyRecord)
    (policy : Policy) :
    (keep record policy).isDelete = false := by
  rw [keep]
  split <;> rfl

/-- The records of a plan are that of its first step, if it is about one, and those behind. -/
theorem filterMap_record?_cons
    (step : PlanStep)
    (rest : List PlanStep) :
    (step :: rest).filterMap record? = step.record?.toList ++ rest.filterMap record? := by
  rw [List.filterMap_cons]
  cases step.record? <;> rfl

/-- The call that a step makes, if it makes one. -/
def call? : PlanStep → Option EnforcementCall
  | .delete record =>
      if isAssigned record.externalId then some (.delete record.externalId) else none
  | .update record policy =>
      if isAssigned record.externalId then some (.update record.externalId policy)
      else some (.create policy)
  | .unchanged _ => none
  | .create policy => some (.create policy)

/-- The user who is blamed when the call of a step fails. -/
def user : PlanStep → String
  | .delete record => record.policy.user
  | .update _ policy => policy.user
  | .unchanged record => record.policy.user
  | .create policy => policy.user

end PlanStep

/-- The record of a policy that is created as so many others have been before it. -/
def newRecord (id intentId externalId : String) (policy : Policy) (now : Instant)
    (created : Nat) : PolicyRecord :=
  ⟨id, intentId, externalId, policy, now.addMicroseconds created, now.addMicroseconds created⟩

/-- The record under a new policy, with the identifier that enforcement has for it. -/
def PolicyRecord.renewed (record : PolicyRecord) (externalId : String) (policy : Policy)
    (now : Instant) : PolicyRecord :=
  { record with externalId := externalId, policy := policy, updatedAt := now }

/-- Noting a step counts the record that it creates, if it creates one. -/
theorem Execution.created_note
    (execution : Execution)
    (left : Option PolicyRecord)
    (change : Option AppliedStep) :
    (execution.note left change).created =
      execution.created + change.toList.countP AppliedStep.isCreated :=
  List.countP_append

/-- A call fails and leaves a state behind. -/
def Enforcement.Refuses {State : Type} (enforcement : Enforcement State)
    (before : State) (cause : EnforcementError) (after : State) : EnforcementCall → Prop
  | .create policy => (enforcement.create policy).run before = (.error cause, after)
  | .update externalId policy =>
      (enforcement.update externalId policy).run before = (.error cause, after)
  | .delete externalId => (enforcement.delete externalId).run before = (.error cause, after)

namespace Reconciler

variable {State : Type}

/-- All that carrying out one step can do to a state, by the answer of the client. -/
inductive StepRun (reconciler : Reconciler State) (intentId : String) (now : Instant)
    (created : Nat) (before : State) :
    PlanStep → Except Interruption (Option PolicyRecord × Option AppliedStep) → State → Prop
  | deleted {record : PolicyRecord} {after : State}
      (assigned : isAssigned record.externalId = true)
      (answered : (reconciler.enforcement.delete record.externalId).run before = (.ok (), after)) :
      StepRun reconciler intentId now created before (.delete record)
        (.ok (none, some (.deleted record))) after
  | dropped {record : PolicyRecord}
      (unassigned : isAssigned record.externalId = false) :
      StepRun reconciler intentId now created before (.delete record)
        (.ok (none, some (.deleted record))) before
  | unchanged {record : PolicyRecord} :
      StepRun reconciler intentId now created before (.unchanged record)
        (.ok (some record, none)) before
  | updated {record : PolicyRecord} {policy : Policy} {after : State}
      (assigned : isAssigned record.externalId = true)
      (answered :
        (reconciler.enforcement.update record.externalId policy).run before = (.ok (), after)) :
      StepRun reconciler intentId now created before (.update record policy)
        (.ok (some (record.renewed record.externalId policy now),
          some (.updated (record.renewed record.externalId policy now)))) after
  | registered {record : PolicyRecord} {policy : Policy} {externalId : String} {after : State}
      (unassigned : isAssigned record.externalId = false)
      (answered :
        (reconciler.enforcement.create policy).run before = (.ok externalId, after)) :
      StepRun reconciler intentId now created before (.update record policy)
        (.ok (some (record.renewed externalId policy now),
          some (.updated (record.renewed externalId policy now)))) after
  | created {policy : Policy} {id externalId : String} {reached after : State}
      (answered :
        (reconciler.enforcement.create policy).run before = (.ok externalId, reached))
      (named : reconciler.newId reached = (id, after)) :
      StepRun reconciler intentId now created before (.create policy)
        (.ok (some (newRecord id intentId externalId policy now created),
          some (.created (newRecord id intentId externalId policy now created)))) after
  | refused {step : PlanStep} {call : EnforcementCall} {cause : EnforcementError} {after : State}
      (asks : step.call? = some call)
      (answered : reconciler.enforcement.Refuses before cause after call) :
      StepRun reconciler intentId now created before step (.error ⟨step.user, cause⟩) after

/-- A call that fails is blamed on the user of its policy, and nothing follows it. -/
theorem run_call_bind
    {Value Result : Type}
    {before : State}
    (user : String)
    (action : Action State EnforcementError Value)
    (next : Value → Action State Interruption Result) :
    (call user action >>= next).run before =
      match action.run before with
      | (.ok value, after) => (next value).run after
      | (.error cause, after) => (.error ⟨user, cause⟩, after) := by
  rw [call, Action.run_bind, Action.run_adapt]
  rcases action.run before with ⟨cause | value, after⟩
  · rfl
  · rfl

/-- A record that enforcement knows is overwritten there. -/
theorem carryOutStep_update_of_assigned
    {reconciler : Reconciler State}
    {intentId : String}
    {now : Instant}
    {created : Nat}
    {record : PolicyRecord}
    (assigned : isAssigned record.externalId = true)
    (policy : Policy) :
    reconciler.carryOutStep intentId now created (.update record policy) =
      call policy.user (reconciler.enforcement.update record.externalId policy) >>= fun _ =>
        pure (some (record.renewed record.externalId policy now),
          some (.updated (record.renewed record.externalId policy now))) := by
  rw [carryOutStep, assigned]
  rfl

/-- A record that enforcement does not know is created there. -/
theorem carryOutStep_update_of_unassigned
    {reconciler : Reconciler State}
    {intentId : String}
    {now : Instant}
    {created : Nat}
    {record : PolicyRecord}
    (unassigned : isAssigned record.externalId = false)
    (policy : Policy) :
    reconciler.carryOutStep intentId now created (.update record policy) =
      call policy.user (reconciler.enforcement.create policy) >>= fun externalId =>
        pure (some (record.renewed externalId policy now),
          some (.updated (record.renewed externalId policy now))) := by
  rw [carryOutStep, unassigned]
  rfl

/-- Carrying out a step does what one of the cases says. -/
theorem stepRun
    (reconciler : Reconciler State)
    (intentId : String)
    (now : Instant)
    (created : Nat)
    (step : PlanStep)
    (before : State) :
    reconciler.StepRun intentId now created before step
      ((reconciler.carryOutStep intentId now created step).run before).1
      ((reconciler.carryOutStep intentId now created step).run before).2 := by
  cases step with
  | unchanged record => exact .unchanged
  | delete record =>
      rw [carryOutStep]
      cases assigned : isAssigned record.externalId with
      | false => exact .dropped assigned
      | true =>
          have asks : (PlanStep.delete record).call? = some (.delete record.externalId) :=
            if_pos assigned
          rw [if_pos rfl, run_call_bind]
          rcases answered : (reconciler.enforcement.delete record.externalId).run before with
            ⟨cause | value, after⟩
          · exact .refused asks answered
          · exact .deleted assigned answered
  | update record policy =>
      cases assigned : isAssigned record.externalId with
      | false =>
          have asks : (PlanStep.update record policy).call? = some (.create policy) := by
            rw [PlanStep.call?, assigned]
            rfl
          rw [carryOutStep_update_of_unassigned assigned, run_call_bind]
          rcases answered : (reconciler.enforcement.create policy).run before with
            ⟨cause | externalId, after⟩
          · exact .refused asks answered
          · exact .registered assigned answered
      | true =>
          have asks :
              (PlanStep.update record policy).call? = some (.update record.externalId policy) :=
            if_pos assigned
          rw [carryOutStep_update_of_assigned assigned, run_call_bind]
          rcases answered :
              (reconciler.enforcement.update record.externalId policy).run before with
            ⟨cause | value, after⟩
          · exact .refused asks answered
          · exact .updated assigned answered
  | create policy =>
      have asks : (PlanStep.create policy).call? = some (.create policy) := rfl
      rw [carryOutStep, run_call_bind]
      rcases answered : (reconciler.enforcement.create policy).run before with
        ⟨cause | externalId, reached⟩
      · exact .refused asks answered
      · exact .created answered rfl

/-- All that carrying out steps behind an execution can do to a state. -/
inductive PlanRun (reconciler : Reconciler State) (intentId : String) (now : Instant) :
    List PlanStep → Execution → State → Execution → State → Prop
  | finished {execution : Execution} {state : State} :
      PlanRun reconciler intentId now [] execution state execution state
  | stepped {step : PlanStep} {rest : List PlanStep} {execution final : Execution}
      {left : Option PolicyRecord} {change : Option AppliedStep} {before reached after : State}
      (run : reconciler.StepRun intentId now execution.created before step
        (.ok (left, change)) reached)
      (behind :
        PlanRun reconciler intentId now rest (execution.note left change) reached final after) :
      PlanRun reconciler intentId now (step :: rest) execution before final after
  | stopped {step : PlanStep} {rest : List PlanStep} {execution : Execution}
      {interruption : Interruption} {before after : State}
      (run : reconciler.StepRun intentId now execution.created before step
        (.error interruption) after) :
      PlanRun reconciler intentId now (step :: rest) execution before
        { execution with interruption := some interruption } after

/-- Carrying out a plan does what one of the cases says. -/
theorem planRun
    (reconciler : Reconciler State)
    (intentId : String)
    (now : Instant)
    (steps : List PlanStep)
    (execution : Execution)
    (before : State) :
    reconciler.PlanRun intentId now steps execution before
      (reconciler.carryOut intentId now steps execution before).1
      (reconciler.carryOut intentId now steps execution before).2 := by
  induction steps generalizing execution before with
  | nil => exact .finished
  | cons step rest inductionHypothesis =>
      have run := reconciler.stepRun intentId now execution.created step before
      rcases ran : (reconciler.carryOutStep intentId now execution.created step).run before with
        ⟨interruption | ⟨left, change⟩, reached⟩
      · rw [ran] at run
        have stops :
            reconciler.carryOut intentId now (step :: rest) execution before =
              ({ execution with interruption := some interruption }, reached) := by
          rw [carryOut, Action.bind_apply, ran]
          rfl
        rw [stops]
        exact .stopped run
      · rw [ran] at run
        have goesOn :
            reconciler.carryOut intentId now (step :: rest) execution before =
              reconciler.carryOut intentId now rest (execution.note left change) reached := by
          rw [carryOut, Action.bind_apply, ran]
        rw [goesOn]
        exact .stepped run (inductionHypothesis _ _)

section Execution

variable {reconciler : Reconciler State} {intentId : String} {before after : State}
  {execution : Execution}

theorem planRun_of_reconcile
    {old : List PolicyRecord}
    {policies : List Policy}
    {now : Instant}
    (ran : reconciler.reconcile intentId old policies now before = (execution, after)) :
    reconciler.PlanRun intentId now (planReconciliation old policies) {} before execution after := by
  have run := reconciler.planRun intentId now (planReconciliation old policies) {} before
  rwa [← reconcile, ran] at run

theorem planRun_of_retire
    {records : List PolicyRecord}
    (ran : reconciler.retire intentId records before = (execution, after)) :
    reconciler.PlanRun intentId ⟨0, 0⟩ (planRetirement records) {} before execution after := by
  have run := reconciler.planRun intentId ⟨0, 0⟩ (planRetirement records) {} before
  rwa [← retire, ran] at run

end Execution

end Reconciler

end IntentPolicy
