import IntentPolicy.Proofs.Service.Concluding

namespace IntentPolicy

/-!
# Identifiers that enforcement has given out

A client that gives out identifiers that are not in use leaves every record with an external
identifier of its own, whichever calls fail and wherever plans stop.
-/

/--
A policy that is created gets an identifier that was not in use, and what is in use stays so up
to what a call deletes.  A blank identifier is none.
-/
structure Enforcement.IssuesFresh {Client : Type} (enforcement : Enforcement Client)
    (inUse : Client → String → Prop) : Prop where
  create : ∀ {policy : Policy} {before : Client} {externalId : String} {after : Client},
    (enforcement.create policy).run before = (.ok externalId, after) →
      (isAssigned externalId = true → ¬ inUse before externalId ∧ inUse after externalId) ∧
        ∀ other, inUse before other → inUse after other
  update : ∀ {externalId : String} {policy : Policy} {before after : Client},
    inUse before externalId →
      (enforcement.update externalId policy).run before = (.ok (), after) →
        ∀ other, inUse before other → inUse after other
  delete : ∀ {externalId : String} {before after : Client},
    inUse before externalId →
      (enforcement.delete externalId).run before = (.ok (), after) →
        ∀ other, other ≠ externalId → inUse before other → inUse after other
  refuses : ∀ {call : EnforcementCall} {before : Client} {cause : EnforcementError}
    {after : Client}, enforcement.Refuses before cause after call →
      ∀ other, inUse before other → inUse after other

/-- A store of policies issues identifiers under which it holds nothing. -/
theorem Enforcement.StoresPolicies.issuesFresh
    {Client : Type}
    {enforcement : Enforcement Client}
    {held : Client → String → Option Policy}
    (stores : enforcement.StoresPolicies held) :
    enforcement.IssuesFresh fun client externalId => (held client externalId).isSome = true where
  create := by
    intro policy before externalId after answered
    obtain ⟨-, free, heldEq⟩ := stores.create answered
    constructor
    · intro _
      rw [free, heldEq, Function.update_self]
      exact ⟨Bool.false_ne_true, rfl⟩
    · intro other isHeld
      by_cases same : other = externalId
      · rw [same, free] at isHeld
        cases isHeld
      · rwa [heldEq, Function.update_of_ne same]
  update := by
    intro externalId policy before after known answered other isHeld
    rw [stores.update known answered]
    by_cases same : other = externalId
    · rw [same, Function.update_self]
      rfl
    · rwa [Function.update_of_ne same]
  delete := by
    intro externalId before after known answered other apart isHeld
    rwa [stores.delete known answered, Function.update_of_ne apart]
  refuses := by
    intro call before cause after refuses other isHeld
    rwa [stores.refuses refuses]

/-- External identifiers of records are in use, and no two records share one. -/
structure Registered (inUse : String → Prop) (records : List PolicyRecord) : Prop where
  used : ∀ record ∈ records, isAssigned record.externalId = true → inUse record.externalId
  apart : ∀ record ∈ records, ∀ other ∈ records, isAssigned record.externalId = true →
    record.externalId = other.externalId → record.id = other.id

namespace Registered

variable {inUse stillInUse : String → Prop} {store : MemoryStore}

theorem nil
    (inUse : String → Prop) :
    Registered inUse [] := by
  constructor <;> simp

theorem mono
    {records : List PolicyRecord}
    (registered : Registered inUse records)
    (kept : ∀ externalId, inUse externalId → stillInUse externalId) :
    Registered stillInUse records where
  used record stored assigned := kept _ (registered.used record stored assigned)
  apart := registered.apart

/-- A record goes, and with it the use of its external identifier at most. -/
theorem deleteRecord
    (registered : Registered inUse store.records)
    (id : String)
    (kept : ∀ record ∈ store.records, record.id ≠ id → isAssigned record.externalId = true →
      inUse record.externalId → stillInUse record.externalId) :
    Registered stillInUse (store.deleteRecord id).records := by
  have spared {record : PolicyRecord} (stored : record ∈ (store.deleteRecord id).records) :
      record ∈ store.records ∧ record.id ≠ id := by
    obtain ⟨storedBefore, otherId⟩ := List.mem_filter.mp stored
    exact ⟨storedBefore, bne_iff_ne.mp otherId⟩
  constructor
  · intro record stored assigned
    obtain ⟨storedBefore, otherId⟩ := spared stored
    exact kept record storedBefore otherId assigned (registered.used record storedBefore assigned)
  · intro record stored other otherStored
    exact registered.apart record (spared stored).1 other (spared otherStored).1

/-- A record is saved with an external identifier that no other record has. -/
theorem saveRecord
    {record : PolicyRecord}
    (registered : Registered inUse store.records)
    (kept : ∀ externalId, inUse externalId → stillInUse externalId)
    (used : isAssigned record.externalId = true → stillInUse record.externalId)
    (own : ∀ other ∈ store.records, isAssigned record.externalId = true →
      record.externalId = other.externalId → record.id = other.id) :
    Registered stillInUse (store.saveRecord record).records := by
  constructor
  · intro other stored assigned
    rcases MemoryStore.mem_saveRecord stored with held | ⟨_, rfl⟩
    · exact kept _ (registered.used other held assigned)
    · exact used assigned
  · intro first firstStored second secondStored assigned sameExternal
    rcases MemoryStore.mem_saveRecord firstStored with firstHeld | ⟨_, rfl⟩
    · rcases MemoryStore.mem_saveRecord secondStored with secondHeld | ⟨_, rfl⟩
      · exact registered.apart first firstHeld second secondHeld assigned sameExternal
      · exact (own first firstHeld (sameExternal ▸ assigned) sameExternal.symm).symm
    · rcases MemoryStore.mem_saveRecord secondStored with secondHeld | ⟨_, rfl⟩
      · exact own second secondHeld assigned sameExternal
      · rfl

/-- A record is saved with an external identifier that was not in use. -/
theorem saveIssued
    {record : PolicyRecord}
    (registered : Registered inUse store.records)
    (kept : ∀ externalId, inUse externalId → stillInUse externalId)
    (issued : isAssigned record.externalId = true →
      ¬ inUse record.externalId ∧ stillInUse record.externalId) :
    Registered stillInUse (store.saveRecord record).records := by
  refine registered.saveRecord kept (fun assigned => (issued assigned).2) ?_
  intro other stored assigned sameExternal
  obtain ⟨free, -⟩ := issued assigned
  rw [sameExternal] at assigned free
  exact (free (registered.used other stored assigned)).elim

end Registered

section Run

variable {Client : Type} {deployment : Deployment Client} {inUse : Client → String → Prop}
  {id : String} {now : Instant} {start before after : MemoryWorld Client}
  {execution : Execution} {pending : List PolicyRecord}

/-- A step that goes through leaves every record with an external identifier of its own. -/
theorem Registered.step
    {step : PlanStep}
    {left : Option PolicyRecord}
    {change : Option AppliedStep}
    (registered : Registered (inUse before.client)
      (start.store.withChanges execution.applied).records)
    (tallying : Tallying deployment.identifiers id start execution before
      (step.record?.toList ++ pending))
    (issues : deployment.enforcement.IssuesFresh inUse)
    (run : deployment.reconciler.StepRun id now execution.created before step
      (.ok (left, change)) after) :
    Registered (inUse after.client)
      (start.store.withChanges (execution.note left change).applied).records := by
  cases run with
  | @deleted record _ assigned answered =>
      obtain ⟨client, clientAnswered, rfl⟩ := Action.of_run_within answered
      have stored := (tallying.inFront.mem_of_mem List.mem_cons_self).1
      have inUseBefore := registered.used record stored assigned
      rw [MemoryStore.withChanges_note]
      -- Only the identifier of this record goes out of use, and no other record has it.
      refine registered.deleteRecord record.id fun other otherStored otherId otherAssigned used => ?_
      refine issues.delete inUseBefore clientAnswered _ (fun sameExternal => otherId ?_) used
      exact registered.apart other otherStored record stored otherAssigned sameExternal
  | @dropped record unassigned =>
      rw [MemoryStore.withChanges_note]
      exact registered.deleteRecord record.id fun _ _ _ _ used => used
  | @unchanged record =>
      rw [Execution.applied_note_none]
      exact registered
  | @updated record policy _ assigned answered =>
      obtain ⟨client, clientAnswered, rfl⟩ := Action.of_run_within answered
      have stored := (tallying.inFront.mem_of_mem List.mem_cons_self).1
      have inUseBefore := registered.used record stored assigned
      have kept := issues.update inUseBefore clientAnswered
      rw [MemoryStore.withChanges_note]
      exact registered.saveRecord kept (fun _ => kept _ inUseBefore)
        (registered.apart record stored)
  | @registered record policy externalId _ unassigned answered =>
      obtain ⟨client, clientAnswered, rfl⟩ := Action.of_run_within answered
      obtain ⟨issued, kept⟩ := issues.create clientAnswered
      rw [MemoryStore.withChanges_note]
      exact registered.saveIssued kept issued
  | @created policy newId externalId reached _ answered named =>
      obtain ⟨client, clientAnswered, rfl⟩ := Action.of_run_within answered
      obtain ⟨-, rfl⟩ := Prod.mk.inj named
      obtain ⟨issued, kept⟩ := issues.create clientAnswered
      rw [MemoryStore.withChanges_note]
      exact registered.saveIssued kept issued

/-- Wherever a plan stops, every record has an external identifier of its own. -/
theorem Registered.run
    {steps : List PlanStep}
    {final : Execution}
    (registered : Registered (inUse before.client)
      (start.store.withChanges execution.applied).records)
    (tallying : Tallying deployment.identifiers id start execution before
      (steps.filterMap PlanStep.record?))
    (fresh : Function.Injective deployment.identifiers)
    (issues : deployment.enforcement.IssuesFresh inUse)
    (run : deployment.reconciler.PlanRun id now steps execution before final after) :
    Registered (inUse after.client) (start.store.withChanges final.applied).records := by
  induction run with
  | finished => exact registered
  | stepped run _ inductionHypothesis =>
      rw [PlanStep.filterMap_record?_cons] at tallying
      exact inductionHypothesis (registered.step tallying issues run) (tallying.step fresh run)
  | stopped run =>
      cases run with
      | refused _ answered =>
          obtain ⟨client, refuses, rfl⟩ := Deployment.of_refuses answered
          exact registered.mono (issues.refuses refuses)

/-- An operation begins with all records of its intent; a new intent has none. -/
theorem Deployment.Begins.perm
    {old : List PolicyRecord}
    (begins : deployment.Begins before id start old)
    (fresh : Function.Injective deployment.identifiers)
    (sound : before.IsSound deployment.identifiers) :
    old.Perm (before.store.recordsOf id) := by
  cases begins with
  | anew => rw [sound.recordsOf_next fresh]
  | listed => exact MemoryStore.listRecords_perm _ id

/-- What an operation begins with is still to be treated. -/
theorem Deployment.Begins.tallying
    {old : List PolicyRecord}
    (begins : deployment.Begins before id start old)
    (fresh : Function.Injective deployment.identifiers)
    (sound : before.IsSound deployment.identifiers)
    (policies : List Policy) :
    Tallying deployment.identifiers id start {} start
      ((planReconciliation old policies).filterMap PlanStep.record?) := by
  obtain ⟨sameStore, -, -, drawnLe⟩ := begins.frame
  refine Tallying.planned ?_ ?_ ?_ policies
  · exact sameStore ▸ sound.distinctIds
  · exact fun record stored => (sound.identified record (sameStore ▸ stored)).mono drawnLe
  · exact sameStore ▸ begins.perm fresh sound

/-- However an operation ends, every record has an external identifier of its own. -/
theorem Registered.concludes
    {answer : Except ServiceError AuditDetail}
    (registered : Registered (inUse before.client) before.store.records)
    (fresh : Function.Injective deployment.identifiers)
    (sound : before.IsSound deployment.identifiers)
    (issues : deployment.enforcement.IssuesFresh inUse)
    (concludes : deployment.Concludes before id answer after) :
    Registered (inUse after.client) after.store.records := by
  rcases concludes.refused_or_ran with
    rfl | ⟨start, old, policies, now, execution, reached, begins, ran, behindClient, stored⟩
  · exact registered
  · obtain ⟨sameStore, sameClient, -⟩ := begins.frame
    have registeredAtStart : Registered (inUse start.client)
        (start.store.withChanges (Execution.applied {})).records := by
      rw [sameClient]
      exact sameStore ▸ registered
    have registeredBehind := registeredAtStart.run (begins.tallying fresh sound policies) fresh
      issues (Reconciler.planRun_of_reconcile ran)
    rwa [behindClient, stored, ← sameStore]

theorem Registered.serve
    (registered : Registered (inUse before.client) before.store.records)
    (fresh : Function.Injective deployment.identifiers)
    (sound : before.IsSound deployment.identifiers)
    (issues : deployment.enforcement.IssuesFresh inUse)
    (call : ServiceCall) :
    Registered (inUse (deployment.serve before call).client)
      (deployment.serve before call).store.records := by
  cases subject : call.subject? (deployment.identifiers before.drawn) with
  | none =>
      obtain ⟨rate, rfl⟩ := ServiceCall.eq_saveRate_of_subject? subject
      exact registered
  | some id =>
      obtain ⟨_, -, concludes⟩ := deployment.concludes_serve sound.distinctIds subject
      exact registered.concludes fresh sound issues concludes

/-- Whatever is asked of whichever services, records share no external identifier. -/
theorem Registered.attendAll
    {identifiers : Nat → String}
    {requests : List (ServedRequest Client)}
    (registered : Registered (inUse before.client) before.store.records)
    (fresh : Function.Injective identifiers)
    (sound : before.IsSound identifiers)
    (issues : ∀ request ∈ requests, request.enforcement.IssuesFresh inUse) :
    Registered (inUse (attendAll identifiers requests before).client)
      (attendAll identifiers requests before).store.records := by
  induction requests generalizing before with
  | nil => exact registered
  | cons request requests inductionHypothesis =>
      obtain ⟨issuesHere, issuesBehind⟩ := List.forall_mem_cons.mp issues
      let deployment := request.deployment identifiers
      have soundBehind := (deployment.serveRun fresh sound request.call).isSound sound
      have registeredBehind : Registered (inUse (deployment.serve before request.call).client)
          (deployment.serve before request.call).store.records :=
        registered.serve fresh sound issuesHere request.call
      exact inductionHypothesis registeredBehind soundBehind issuesBehind

end Run

end IntentPolicy
