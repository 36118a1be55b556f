import IntentPolicy.Audit
import IntentPolicy.Reconciliation.Enforcement
import IntentPolicy.Reconciliation.Plan

namespace IntentPolicy

/-!
# Carrying out a plan

The steps of a plan are carried out in order until a call to enforcement fails.  Nothing
that went through is undone: an execution tells what was applied, which records are left
and where it stopped.
-/

/-- A change that went through. -/
inductive AppliedStep where
  | created (record : PolicyRecord)
  | updated (record : PolicyRecord)
  | deleted (record : PolicyRecord)
  deriving DecidableEq

/-- The step created a record. -/
def AppliedStep.isCreated : AppliedStep → Bool
  | .created _ => true
  | _ => false

/-- The call at which an execution stopped: the user of its policy and why it failed. -/
structure Interruption where
  user : String
  cause : EnforcementError
  deriving Repr, DecidableEq

/-- How far a plan was carried out. -/
structure Execution where
  records : List PolicyRecord := []
  applied : List AppliedStep := []
  interruption : Option Interruption := none
  deriving DecidableEq

namespace Execution

/-- Note what one more step left and what it changed. -/
def note (execution : Execution) (left : Option PolicyRecord) (change : Option AppliedStep) :
    Execution :=
  { execution with
    records := execution.records ++ left.toList
    applied := execution.applied ++ change.toList }

/-- The number of records created so far. -/
def created (execution : Execution) : Nat :=
  execution.applied.countP AppliedStep.isCreated

/-- What is said about the call at which the execution stopped. -/
def failureMessage (execution : Execution) (interruption : Interruption) : String :=
  s!"enforcement failed after {execution.applied.length} applied step(s): " ++
    interruption.cause.message

end Execution

/-- What reconciliation works with: the enforcement client and a source of new identifiers. -/
structure Reconciler (State : Type) where
  enforcement : Enforcement State
  newId : StateM State String

namespace Reconciler

variable {State : Type}

/-- Blame a failed call on the user of its policy. -/
def call {Value : Type} (user : String) (action : Action State EnforcementError Value) :
    Action State Interruption Value :=
  ExceptT.adapt (Interruption.mk user) action

/--
Carry out one step: the record it leaves and the change it made.  A record that
enforcement never knew is deleted without a call and updated by creating it.
-/
def carryOutStep (reconciler : Reconciler State) (intentId : String) (now : Instant)
    (created : Nat) :
    PlanStep → Action State Interruption (Option PolicyRecord × Option AppliedStep)
  | .delete record => do
      if isAssigned record.externalId then
        call record.policy.user (reconciler.enforcement.delete record.externalId)
      return (none, some (.deleted record))
  | .unchanged record => return (some record, none)
  | .update record policy => do
      let externalId ←
        if isAssigned record.externalId then do
          call policy.user (reconciler.enforcement.update record.externalId policy)
          pure record.externalId
        else call policy.user (reconciler.enforcement.create policy)
      let updated : PolicyRecord :=
        { record with externalId := externalId, policy := policy, updatedAt := now }
      return (some updated, some (.updated updated))
  | .create policy => do
      let externalId ← call policy.user (reconciler.enforcement.create policy)
      let id ← reconciler.newId
      let createdAt := now.addMicroseconds created
      let record : PolicyRecord :=
        ⟨id, intentId, externalId, policy, createdAt, createdAt⟩
      return (some record, some (.created record))

/-- Carry out steps behind an execution until a call fails. -/
def carryOut (reconciler : Reconciler State) (intentId : String) (now : Instant) :
    List PlanStep → Execution → StateM State Execution
  | [], execution => pure execution
  | step :: rest, execution => do
      match ← (reconciler.carryOutStep intentId now execution.created step).run with
      | .ok (left, change) => carryOut reconciler intentId now rest (execution.note left change)
      | .error interruption => pure { execution with interruption := some interruption }

/-- Turn the old records of an intent into the new policies. -/
def reconcile (reconciler : Reconciler State) (intentId : String) (old : List PolicyRecord)
    (new : List Policy) (now : Instant) : StateM State Execution :=
  reconciler.carryOut intentId now (planReconciliation old new) {}

/-- Enforce the policies of a new intent. -/
def enroll (reconciler : Reconciler State) (intentId : String) (new : List Policy)
    (now : Instant) : StateM State Execution :=
  reconciler.reconcile intentId [] new now

/-- Withdraw all records of an intent; no record is made, so the time of the call is free. -/
def retire (reconciler : Reconciler State) (intentId : String) (records : List PolicyRecord) :
    StateM State Execution :=
  reconciler.carryOut intentId ⟨0, 0⟩ (planRetirement records) {}

end Reconciler

/-- What an applied step puts on record. -/
def AppliedStep.auditDetail : AppliedStep → AuditDetail
  | .created record => .policyCreated record.id record.externalId record.policy.user
  | .updated record => .policyUpdated record.id record.externalId record.policy.user
  | .deleted record => .policyDeleted record.id record.externalId record.policy.user

/-- What an execution puts on record: every change, and last the call that failed. -/
def Execution.auditDetails (execution : Execution) : List AuditDetail :=
  execution.applied.map AppliedStep.auditDetail ++
    execution.interruption.toList.map fun interruption =>
      .enforcementFailed interruption.user interruption.cause.message

end IntentPolicy
