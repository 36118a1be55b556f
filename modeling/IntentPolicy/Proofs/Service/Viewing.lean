import IntentPolicy.Proofs.Reconciliation.Standing
import IntentPolicy.Proofs.Service.Mirroring
import IntentPolicy.Proofs.Service.Soundness

namespace IntentPolicy

/-!
# What is answered is what is stored

An intent that has been created or updated is stored as it is answered, with the records that
are answered.  At a clock that shows a later time than the records of the intent were created
at, they are listed in the order in which they were answered.
-/

/-- A view shows an intent as it is stored, and its records in some order. -/
structure MemoryStore.Contains (store : MemoryStore) (view : IntentView) : Prop where
  intent : store.findIntent view.intent.id = some view.intent
  records : (store.recordsOf view.intent.id).Perm view.policies

theorem MemoryStore.Contains.mem
    {store : MemoryStore}
    {view : IntentView}
    {record : PolicyRecord}
    (contains : store.Contains view)
    (isShown : record ∈ view.policies) :
    record ∈ store.records :=
  (mem_recordsOf.mp (contains.records.mem_iff.mpr isShown)).1

/-- Records in strict order are listed as they are shown. -/
theorem MemoryStore.Contains.listRecords_eq
    {store : MemoryStore}
    {view : IntentView}
    (contains : store.Contains view)
    (strict : view.policies.Pairwise PolicyRecord.Precedes) :
    store.listRecords view.intent.id = view.policies :=
  oldestFirst_eq_of_perm strict contains.records

namespace Deployment

variable {Client : Type} {deployment : Deployment Client} {before start after : MemoryWorld Client}
  {intentId owner id text : String} {policies : List Policy} {now : Instant} {view : IntentView}
  {execution : Execution} {reached : MemoryWorld Client}

/-- A stored intent is viewed with its records, and nothing is changed. -/
theorem view_run
    {held : IntentRecord}
    (found : before.store.findIntent id = some held) :
    (deployment.service.view id).run before =
      (.ok ⟨held, before.store.listRecords id⟩, before) := by
  have looked := deployment.find_run before id
  rw [found] at looked
  rw [Service.view, Action.run_bind_ok _ looked]
  rfl

/-- A created intent is stored as it is answered. -/
theorem CreateRun.contains
    (run : deployment.CreateRun owner text now before (.ok view) after)
    (fresh : Function.Injective deployment.identifiers)
    (sound : before.IsSound deployment.identifiers) :
    after.store.Contains view := by
  cases run with
  | @completed _ _ _ entered execution reached named entry _ ran finished =>
      subst named entry
      obtain ⟨untreated, tallying, noneUntreated⟩ := sound.tallying_of_enroll fresh ran
      constructor
      · refine (MemoryStore.findIntent_withChanges execution.applied).trans ?_
        rw [tallying.store]
        refine MemoryStore.findIntent_saveIntent fun held found => ?_
        cases (sound.findIntent_next fresh).symm.trans found
      · refine tallying.recordsOf_perm (noneUntreated finished) ?_
        refine MemoryStore.records_withChanges ?_ _
        rw [tallying.store]
        rfl

/-- An updated intent is stored as it is answered. -/
theorem UpdateRun.contains
    (run : deployment.UpdateRun id text now before (.ok view) after)
    (fresh : Function.Injective deployment.identifiers)
    (sound : before.IsSound deployment.identifiers) :
    after.store.Contains view := by
  cases run with
  | @completed held _ _ execution reached found _ ran finished =>
      obtain ⟨untreated, tallying, noneUntreated⟩ := sound.tallying_of_listed fresh ran
      obtain ⟨-, rfl⟩ := MemoryStore.stored_of_findIntent found
      constructor
      · refine MemoryStore.findIntent_saveIntent fun other otherFound => ?_
        rw [MemoryStore.findIntent_withChanges, tallying.store] at otherFound
        rw [← Option.some.inj (found.symm.trans otherFound)]
      · exact tallying.recordsOf_perm (noneUntreated finished)
          (MemoryStore.records_withChanges (congrArg _ tallying.store) _)

/-- A finished plan leaves its records in strict order, if they were created earlier. -/
theorem strict_of_finished
    {old : List PolicyRecord}
    (ran : deployment.reconciler.reconcile intentId old policies now start = (execution, reached))
    (finished : execution.interruption = none)
    (distinctIds : (old.map (·.id)).Nodup)
    (earlier : ∀ record ∈ old, record.createdAt.lt now = true)
    (nanFree : ∀ record ∈ execution.records, record.policy.IsNaNFree) :
    execution.records.Pairwise PolicyRecord.Precedes := by
  have carried := (Reconciler.planRun_of_reconcile ran).carried_of_finished finished
  have plan := planReconciliation_eq old policies
  rw [plan] at carried
  have policiesNaNFree := carried.isNaNFree_of_records rfl nanFree
  have start := Standing.start distinctIds fun _ : policies ≠ [] => earlier
  obtain ⟨_, pending, left, -, standing, planBehind⟩ :=
    carried.standing policiesNaNFree start (List.append_nil _).symm
  obtain ⟨rfl, -⟩ := nil_of_alignedPlan planBehind.symm
  have strict := standing.strict
  rwa [List.append_nil] at strict

/-- The records of a created intent are answered in strict order. -/
theorem CreateRun.strict
    (run : deployment.CreateRun owner text now before (.ok view) after)
    (nanFree : ∀ record ∈ view.policies, record.policy.IsNaNFree) :
    view.policies.Pairwise PolicyRecord.Precedes := by
  cases run with
  | completed _ _ _ ran finished =>
      exact strict_of_finished ran finished .nil (by simp) nanFree

/-- The records of an updated intent are answered in strict order. -/
theorem UpdateRun.strict
    (run : deployment.UpdateRun id text now before (.ok view) after)
    (sound : before.IsSound deployment.identifiers)
    (earlier : ∀ record ∈ before.store.recordsOf id, record.createdAt.lt now = true)
    (nanFree : ∀ record ∈ view.policies, record.policy.IsNaNFree) :
    view.policies.Pairwise PolicyRecord.Precedes := by
  cases run with
  | completed _ _ ran finished =>
      refine strict_of_finished ran finished
        (MemoryStore.distinctIds_listRecords id sound.distinctIds) ?_ nanFree
      exact fun record listed =>
        earlier record ((before.store.listRecords_perm id).mem_iff.mp listed)

end Deployment

end IntentPolicy
