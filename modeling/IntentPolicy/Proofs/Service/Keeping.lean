import IntentPolicy.Proofs.Reconciliation.Alignment
import IntentPolicy.Proofs.Service.Deployment
import IntentPolicy.Proofs.Service.Mirror
import Mathlib.Data.List.Basic

namespace IntentPolicy

/-!
# Policies and records change together

Carrying out a plan changes what enforcement holds; storing what was applied changes the
records.  Behind every step, and so wherever the plan stops, the records that would be
stored mirror what is held.
-/

/--
Enforcement behaves like a store of policies by identifier.  Creating gives an identifier
that is neither blank nor in use; a call that fails changes nothing.
-/
structure Enforcement.StoresPolicies {Client : Type} (enforcement : Enforcement Client)
    (held : Client → String → Option Policy) : Prop where
  create : ∀ {policy : Policy} {before : Client} {externalId : String} {after : Client},
    (enforcement.create policy).run before = (.ok externalId, after) →
      isAssigned externalId = true ∧ held before externalId = none ∧
        held after = Function.update (held before) externalId (some policy)
  update : ∀ {externalId : String} {policy : Policy} {before after : Client},
    (held before externalId).isSome = true →
      (enforcement.update externalId policy).run before = (.ok (), after) →
        held after = Function.update (held before) externalId (some policy)
  delete : ∀ {externalId : String} {before after : Client},
    (held before externalId).isSome = true →
      (enforcement.delete externalId).run before = (.ok (), after) →
        held after = Function.update (held before) externalId none
  refuses : ∀ {call : EnforcementCall} {before : Client} {cause : EnforcementError}
    {after : Client}, enforcement.Refuses before cause after call → held after = held before

/-- A step that changes nothing leaves what was applied. -/
theorem Execution.applied_note_none
    (execution : Execution)
    (left : Option PolicyRecord) :
    (execution.note left none).applied = execution.applied :=
  List.append_nil _

/-- The record that a change is about. -/
def AppliedStep.record : AppliedStep → PolicyRecord
  | .created record => record
  | .updated record => record
  | .deleted record => record

namespace MemoryStore

variable {store : MemoryStore} {record other : PolicyRecord} {change : AppliedStep}

theorem withChanges_append
    (changes behind : List AppliedStep) :
    store.withChanges (changes ++ behind) = (store.withChanges changes).withChanges behind :=
  List.foldl_append

/-- One more change is stored behind those that were applied. -/
theorem withChanges_note
    (store : MemoryStore)
    (execution : Execution)
    (left : Option PolicyRecord)
    (change : AppliedStep) :
    store.withChanges (execution.note left (some change)).applied =
      (store.withChanges execution.applied).withChange change :=
  withChanges_append execution.applied [change]

/-- The records behind a change do not depend on what else is stored. -/
theorem records_withChange
    {twin : MemoryStore}
    (sameRecords : store.records = twin.records) :
    (store.withChange change).records = (twin.withChange change).records := by
  cases change <;> simp only [withChange, saveRecord, deleteRecord, findRecord, sameRecords]

theorem records_withChanges
    {twin : MemoryStore}
    (sameRecords : store.records = twin.records)
    (changes : List AppliedStep) :
    (store.withChanges changes).records = (twin.withChanges changes).records := by
  induction changes generalizing store twin with
  | nil => exact sameRecords
  | cons change changes inductionHypothesis =>
      exact inductionHypothesis (records_withChange sameRecords)

/-- What is saved differs from the record in its time of creation at most. -/
theorem mem_saveRecord
    (stored : other ∈ (store.saveRecord record).records) :
    other ∈ store.records ∨ ∃ createdAt, other = { record with createdAt } := by
  rcases List.mem_append.mp stored with among | isSaved
  · exact Or.inl (List.mem_filter.mp among).1
  · exact Or.inr ⟨_, List.mem_singleton.mp isSaved⟩

/-- A change leaves the records with other identifiers. -/
theorem mem_withChange_of_ne
    (member : other ∈ store.records)
    (apart : other.id ≠ change.record.id) :
    other ∈ (store.withChange change).records := by
  have kept : other ∈ store.records.filter (·.id != change.record.id) :=
    List.mem_filter.mpr ⟨member, bne_iff_ne.mpr apart⟩
  cases change with
  | created record => exact List.mem_append_left _ kept
  | updated record => exact List.mem_append_left _ kept
  | deleted record => exact kept

/-- With distinct identifiers, a record stands beside those with another identifier. -/
theorem perm_of_mem
    {records : List PolicyRecord}
    (member : record ∈ records)
    (distinctIds : (records.map (·.id)).Nodup) :
    records.Perm (record :: records.filter (·.id != record.id)) := by
  have sameFilter : records.filter (·.id != record.id) = records.filter (· != record) := by
    refine List.filter_congr fun other otherMember => ?_
    have sameOnlyById : other.id = record.id ↔ other = record :=
      ⟨List.inj_on_of_nodup_map distinctIds otherMember member, fun same => same ▸ rfl⟩
    simp only [bne, beq_eq_decide, sameOnlyById]
  rw [sameFilter, ← distinctIds.of_map.erase_eq_filter record]
  exact List.perm_cons_erase member

variable {identifiers : Nat → String} {held : String → Option Policy} {drawn : Nat}

/-- A record under the next identifier is saved together with its policy. -/
theorem kept_created
    (kept : Kept identifiers held drawn store.records)
    (record : PolicyRecord)
    (fresh : Function.Injective identifiers)
    (free : held record.externalId = none)
    (assigned : isAssigned record.externalId = true)
    (named : record.id = identifiers drawn) :
    Kept identifiers (Function.update held record.externalId (some record.policy)) (drawn + 1)
      (store.withChange (.created record)).records := by
  have ownId : record.id ∉ store.records.map (·.id) := by
    intro member
    obtain ⟨other, otherMember, sameId⟩ := List.mem_map.mp member
    exact kept.ne_next fresh otherMember (sameId.trans named)
  have noneGoes : store.records.filter (·.id != record.id) = store.records := by
    rw [List.filter_eq_self]
    intro other otherMember
    rw [bne_iff_ne]
    intro sameId
    exact ownId (List.mem_map.mpr ⟨other, otherMember, sameId⟩)
  let createdAt := ((store.findRecord record.id).map (·.createdAt)).getD record.createdAt
  let saved : PolicyRecord := { record with createdAt := createdAt }
  have savedRecords : (store.withChange (.created record)).records = store.records ++ [saved] := by
    simp only [withChange, saveRecord, noneGoes, saved, createdAt]
  have added : Kept identifiers (Function.update held record.externalId (some record.policy))
      (drawn + 1) (saved :: store.records) :=
    kept.draw.add saved free assigned ownId ⟨drawn, Nat.lt_succ_self drawn, named.symm⟩
  rw [savedRecords]
  exact added.perm (List.perm_append_singleton saved store.records).symm

/-- A record is saved under a new policy. -/
theorem kept_updated
    (kept : Kept identifiers held drawn store.records)
    (member : record ∈ store.records)
    (renewed : PolicyRecord)
    (sameId : renewed.id = record.id)
    (sameExternal : renewed.externalId = record.externalId) :
    Kept identifiers (Function.update held record.externalId (some renewed.policy)) drawn
      (store.withChange (.updated renewed)).records := by
  let createdAt := ((store.findRecord renewed.id).map (·.createdAt)).getD renewed.createdAt
  let saved : PolicyRecord := { renewed with createdAt := createdAt }
  have savedRecords : (store.withChange (.updated renewed)).records =
      store.records.filter (·.id != record.id) ++ [saved] := by
    simp only [withChange, saveRecord, sameId, saved, createdAt]
  have replaced : Kept identifiers (Function.update held record.externalId (some renewed.policy))
      drawn (saved :: store.records.filter (·.id != record.id)) :=
    (kept.perm (perm_of_mem member kept.distinctIds)).replace saved sameId sameExternal
  rw [savedRecords]
  exact replaced.perm (List.perm_append_singleton saved _).symm

theorem kept_deleted
    (kept : Kept identifiers held drawn store.records)
    (member : record ∈ store.records) :
    Kept identifiers (Function.update held record.externalId none) drawn
      (store.withChange (.deleted record)).records :=
  (kept.perm (perm_of_mem member kept.distinctIds)).remove

end MemoryStore

section Run

variable {Client : Type} {deployment : Deployment Client} {held : Client → String → Option Policy}
  {base : MemoryStore} {execution : Execution} {before after : MemoryWorld Client}
  {pending : List PolicyRecord} {intentId : String} {now : Instant}

/--
While a plan is carried out nothing is stored.  The records that would be stored mirror
what is held, and the records that are still to be treated are among them.
-/
structure Underway (deployment : Deployment Client) (held : Client → String → Option Policy)
    (base : MemoryStore) (execution : Execution) (world : MemoryWorld Client)
    (pending : List PolicyRecord) : Prop where
  store : world.store = base
  kept : Kept deployment.identifiers (held world.client) world.drawn
    (base.withChanges execution.applied).records
  waiting : ∀ record ∈ pending, record ∈ (base.withChanges execution.applied).records
  distinct : (pending.map (·.id)).Nodup

/-- Records behind another one with distinct identifiers differ from it in theirs. -/
theorem apart_of_cons
    {record : PolicyRecord}
    (distinct : ((record :: pending).map (·.id)).Nodup) :
    ∀ other ∈ pending, other.id ≠ record.id := by
  intro other member sameId
  exact (List.nodup_cons.mp distinct).1 (List.mem_map.mpr ⟨other, member, sameId⟩)

/-- What is still to be treated is held. -/
theorem Underway.isHeld
    {record : PolicyRecord}
    (underway : Underway deployment held base execution before pending)
    (member : record ∈ (base.withChanges execution.applied).records) :
    (held before.client record.externalId).isSome = true := by
  rw [underway.kept.mirrors.held_of_mem member]
  rfl

/-- Behind a change of another record, what is still to be treated is still there. -/
theorem Underway.behind
    {treated : List PolicyRecord}
    {left : Option PolicyRecord}
    {change : AppliedStep}
    {heldBehind : String → Option Policy}
    (underway : Underway deployment held base execution before (treated ++ pending))
    (apart : ∀ other ∈ pending, other.id ≠ change.record.id)
    (sameStore : after.store = before.store)
    (heldEq : held after.client = heldBehind)
    (kept : Kept deployment.identifiers heldBehind after.drawn
      ((base.withChanges execution.applied).withChange change).records) :
    Underway deployment held base (execution.note left (some change)) after pending := by
  have oneMore := base.withChanges_note execution left change
  constructor
  · exact sameStore.trans underway.store
  · rw [oneMore, heldEq]
    exact kept
  · intro other member
    rw [oneMore]
    exact MemoryStore.mem_withChange_of_ne
      (underway.waiting other (List.mem_append_right treated member)) (apart other member)
  · exact (List.nodup_append.mp (List.map_append ▸ underway.distinct)).2.1

/-- A step that goes through changes policies and records together. -/
theorem Underway.step
    {step : PlanStep}
    {left : Option PolicyRecord}
    {change : Option AppliedStep}
    (underway :
      Underway deployment held base execution before (step.record?.toList ++ pending))
    (stores : deployment.enforcement.StoresPolicies held)
    (fresh : Function.Injective deployment.identifiers)
    (run : deployment.reconciler.StepRun intentId now execution.created before step
      (.ok (left, change)) after) :
    Underway deployment held base (execution.note left change) after pending := by
  cases run with
  | @deleted record _ assigned answered =>
      obtain ⟨client, clientAnswered, rfl⟩ := Action.of_run_within answered
      have member := underway.waiting record (by simp [PlanStep.record?])
      have heldEq := stores.delete (underway.isHeld member) clientAnswered
      have kept := MemoryStore.kept_deleted underway.kept member
      exact underway.behind (apart_of_cons underway.distinct) rfl heldEq kept
  | @dropped record unassigned =>
      -- Every stored record has been given an external identifier, so none is dropped.
      have member := underway.waiting record (by simp [PlanStep.record?])
      rw [underway.kept.assigned record member] at unassigned
      cases unassigned
  | @unchanged record =>
      have nothingMore := execution.applied_note_none (some record)
      refine ⟨underway.store, nothingMore.symm ▸ underway.kept, ?_, ?_⟩
      · rw [nothingMore]
        exact fun other member => underway.waiting other (List.mem_cons_of_mem record member)
      · exact (List.nodup_cons.mp underway.distinct).2
  | @updated record policy _ assigned answered =>
      obtain ⟨client, clientAnswered, rfl⟩ := Action.of_run_within answered
      have member := underway.waiting record (by simp [PlanStep.record?])
      have heldEq := stores.update (underway.isHeld member) clientAnswered
      have kept := MemoryStore.kept_updated underway.kept member
        (record.renewed record.externalId policy now) rfl rfl
      exact underway.behind (apart_of_cons underway.distinct) rfl heldEq kept
  | @registered record policy externalId _ unassigned answered =>
      have member := underway.waiting record (by simp [PlanStep.record?])
      rw [underway.kept.assigned record member] at unassigned
      cases unassigned
  | @created policy id externalId reached _ answered named =>
      obtain ⟨client, clientAnswered, rfl⟩ := Action.of_run_within answered
      obtain ⟨rfl, rfl⟩ := Prod.mk.inj named
      obtain ⟨assigned, free, heldEq⟩ := stores.create clientAnswered
      let made := newRecord (deployment.identifiers before.drawn) intentId externalId policy now
        execution.created
      have kept := MemoryStore.kept_created underway.kept made fresh free assigned rfl
      refine underway.behind ?_ rfl heldEq kept
      intro other member
      exact underway.kept.ne_next fresh (underway.waiting other member)

/-- A call that fails may have changed the client, and has changed nothing else. -/
theorem Deployment.of_refuses
    {call : EnforcementCall}
    {cause : EnforcementError}
    (answered : deployment.reconciler.enforcement.Refuses before cause after call) :
    ∃ client, deployment.enforcement.Refuses before.client cause client call ∧
      after = { before with client } := by
  cases call with
  | create policy => exact Action.of_run_within answered
  | update externalId policy => exact Action.of_run_within answered
  | delete externalId => exact Action.of_run_within answered

/-- A call that fails changes nothing. -/
theorem Enforcement.StoresPolicies.refuses_within
    {call : EnforcementCall}
    {cause : EnforcementError}
    (stores : deployment.enforcement.StoresPolicies held)
    (answered : deployment.reconciler.enforcement.Refuses before cause after call) :
    held after.client = held before.client ∧ after.store = before.store ∧
      after.drawn = before.drawn := by
  obtain ⟨client, refuses, rfl⟩ := Deployment.of_refuses answered
  exact ⟨stores.refuses refuses, rfl, rfl⟩

/-- Wherever a plan stops, what would be stored mirrors what is held. -/
theorem Underway.run
    {steps : List PlanStep}
    {final : Execution}
    (underway :
      Underway deployment held base execution before (steps.filterMap PlanStep.record?))
    (stores : deployment.enforcement.StoresPolicies held)
    (fresh : Function.Injective deployment.identifiers)
    (run : deployment.reconciler.PlanRun intentId now steps execution before final after) :
    after.store = base ∧ Kept deployment.identifiers (held after.client) after.drawn
      (base.withChanges final.applied).records := by
  induction run with
  | finished => exact ⟨underway.store, underway.kept⟩
  | stepped run _ inductionHypothesis =>
      rw [PlanStep.filterMap_record?_cons] at underway
      exact inductionHypothesis (underway.step stores fresh run)
  | stopped run =>
      cases run with
      | refused _ answered =>
          -- What has been applied stays, and the refused call has left no trace.
          obtain ⟨heldEq, storeEq, drawnEq⟩ := stores.refuses_within answered
          rw [heldEq, storeEq, drawnEq]
          exact ⟨underway.store, underway.kept⟩

/-- Reconciliation keeps policies and records together, however far it gets. -/
theorem kept_of_reconcile
    {id : String}
    {policies : List Policy}
    {old : List PolicyRecord}
    (kept : Kept deployment.identifiers (held before.client) before.drawn before.store.records)
    (stores : deployment.enforcement.StoresPolicies held)
    (fresh : Function.Injective deployment.identifiers)
    (stored : ∀ record ∈ old, record ∈ before.store.records)
    (distinctIds : (old.map (·.id)).Nodup)
    (ran : deployment.reconciler.reconcile id old policies now before = (execution, after)) :
    after.store = before.store ∧ Kept deployment.identifiers (held after.client) after.drawn
      (before.store.withChanges execution.applied).records := by
  have ordered := oldestFirst_perm old
  have underway :
      Underway deployment held before.store {} before (oldestFirst old) :=
    ⟨rfl, kept, fun record member => stored record (ordered.mem_iff.mp member),
      (ordered.map _).nodup_iff.mpr distinctIds⟩
  rw [← records_of_alignedPlan (oldestFirst old) policies, ← planReconciliation_eq] at underway
  exact underway.run stores fresh (Reconciler.planRun_of_reconcile ran)

end Run

end IntentPolicy
