import IntentPolicy.Proofs.Service.Keeping
import IntentPolicy.Proofs.Store.Laying

namespace IntentPolicy

/-!
# The records of one intent

Carrying out a plan for an intent changes the records of that intent only, whatever
enforcement answers.  Wherever the plan stops, they are those that the execution has left and
those that are still to be treated.
-/

/-- The records of an intent as they are stored. -/
def MemoryStore.recordsOf (store : MemoryStore) (intentId : String) : List PolicyRecord :=
  store.records.filter (·.intentId == intentId)

theorem MemoryStore.mem_recordsOf
    {store : MemoryStore}
    {intentId : String}
    {record : PolicyRecord} :
    record ∈ store.recordsOf intentId ↔ record ∈ store.records ∧ record.intentId = intentId := by
  rw [recordsOf, List.mem_filter, beq_iff_eq]

theorem MemoryStore.findRecord_of_mem
    {store : MemoryStore}
    {record : PolicyRecord}
    (stored : record ∈ store.records)
    (distinctIds : (store.records.map (·.id)).Nodup) :
    store.findRecord record.id = some record :=
  find?_key_of_mem distinctIds stored

/-- Listing the records of an intent only orders them. -/
theorem MemoryStore.listRecords_perm
    (store : MemoryStore)
    (intentId : String) :
    (store.listRecords intentId).Perm (store.recordsOf intentId) :=
  oldestFirst_perm _

/--
Changes for one intent have led from one store to another: the intent has the records listed,
other intents have those that they had, and all records can be told apart.
-/
structure Tally (identifiers : Nat → String) (drawn : Nat) (intentId : String)
    (base store : MemoryStore) (records : List PolicyRecord) : Prop where
  distinctIds : (store.records.map (·.id)).Nodup
  identified : ∀ record ∈ store.records, IsDrawn identifiers drawn record.id
  ours : (store.recordsOf intentId).Perm records
  others : ∀ other, other ≠ intentId → store.recordsOf other = base.recordsOf other

namespace Tally

variable {identifiers : Nat → String} {drawn more : Nat} {intentId : String}
  {base store after : MemoryStore} {record : PolicyRecord} {records listed : List PolicyRecord}

theorem perm
    (tally : Tally identifiers drawn intentId base store records)
    (same : records.Perm listed) :
    Tally identifiers drawn intentId base store listed :=
  { tally with ours := tally.ours.trans same }

theorem draw
    (tally : Tally identifiers drawn intentId base store records)
    (drawnLe : drawn ≤ more) :
    Tally identifiers more intentId base store records :=
  { tally with identified := fun record member => (tally.identified record member).mono drawnLe }

/-- Only the records that are stored count. -/
theorem of_same
    (tally : Tally identifiers drawn intentId base store records)
    (sameRecords : after.records = store.records) :
    Tally identifiers drawn intentId base after records := by
  have sameRecordsOf (other : String) : after.recordsOf other = store.recordsOf other := by
    rw [MemoryStore.recordsOf, sameRecords, MemoryStore.recordsOf]
  obtain ⟨distinctIds, identified, ours, others⟩ := tally
  rw [← sameRecords] at distinctIds identified
  rw [← sameRecordsOf] at ours
  exact ⟨distinctIds, identified, ours, fun other apart =>
    (sameRecordsOf other).trans (others other apart)⟩

theorem mem_of_mem
    (tally : Tally identifiers drawn intentId base store records)
    (member : record ∈ records) :
    record ∈ store.records ∧ record.intentId = intentId :=
  MemoryStore.mem_recordsOf.mp (tally.ours.mem_iff.mpr member)

theorem delete
    (tally : Tally identifiers drawn intentId base store (record :: records)) :
    Tally identifiers drawn intentId base (store.deleteRecord record.id) records := by
  obtain ⟨stored, ofIntent⟩ := tally.mem_of_mem List.mem_cons_self
  have filtered (other : String) :
      (store.deleteRecord record.id).recordsOf other =
        (store.recordsOf other).filter (·.id != record.id) := by
    rw [MemoryStore.recordsOf, MemoryStore.deleteRecord, MemoryStore.recordsOf, List.filter_comm]
  constructor
  case distinctIds => exact tally.distinctIds.sublist (List.filter_sublist.map _)
  case identified =>
    exact fun other member => tally.identified other (List.mem_filter.mp member).1
  case ours =>
    have distinct : ((record :: records).map (·.id)).Nodup :=
      (tally.ours.map _).nodup_iff.mp (tally.distinctIds.sublist (List.filter_sublist.map _))
    have onlyOne : (record :: records).filter (·.id != record.id) = records := by
      rw [List.filter_cons_of_neg (by simp), List.filter_eq_self]
      intro other member
      rw [bne_iff_ne]
      exact apart_of_cons distinct other member
    rw [filtered, ← onlyOne]
    exact tally.ours.filter _
  case others =>
    -- No other record shares the identifier, so none of another intent is deleted.
    intro other otherIntent
    rw [filtered, ← tally.others other otherIntent, List.filter_eq_self]
    intro spared member
    obtain ⟨sparedStored, ofOther⟩ := MemoryStore.mem_recordsOf.mp member
    rw [bne_iff_ne]
    intro sameId
    have same := List.inj_on_of_nodup_map tally.distinctIds sparedStored stored sameId
    exact otherIntent (ofOther.symm.trans (same ▸ ofIntent))

theorem deleteAll
    (tally : Tally identifiers drawn intentId base store records) :
    Tally identifiers drawn intentId base (store.deleteRecords intentId) [] := by
  constructor
  case distinctIds => exact tally.distinctIds.sublist (List.filter_sublist.map _)
  case identified =>
    exact fun other member => tally.identified other (List.mem_filter.mp member).1
  case ours =>
    rw [List.perm_nil, MemoryStore.recordsOf, MemoryStore.deleteRecords, List.filter_filter,
      List.filter_eq_nil_iff]
    simp
  case others =>
    intro other apart
    rw [← tally.others other apart, MemoryStore.recordsOf, MemoryStore.deleteRecords,
      List.filter_filter, MemoryStore.recordsOf]
    refine List.filter_congr fun record _ => ?_
    by_cases ofOther : record.intentId = other
    · simp [ofOther, apart]
    · simp [ofOther]

/-- A record of the intent with an identifier of its own is added. -/
theorem append
    (tally : Tally identifiers drawn intentId base store records)
    (appended : after.records = store.records ++ [record])
    (ownId : record.id ∉ store.records.map (·.id))
    (isDrawn : IsDrawn identifiers drawn record.id)
    (ofIntent : record.intentId = intentId) :
    Tally identifiers drawn intentId base after (record :: records) := by
  have filtered (other : String) :
      after.recordsOf other = store.recordsOf other ++ [record].filter (·.intentId == other) := by
    rw [MemoryStore.recordsOf, appended, List.filter_append, MemoryStore.recordsOf]
  constructor
  case distinctIds =>
    rw [appended, List.map_append, List.map_singleton, ← List.concat_eq_append, List.nodup_concat]
    exact ⟨ownId, tally.distinctIds⟩
  case identified =>
    rw [appended, List.forall_mem_append]
    exact ⟨tally.identified, List.forall_mem_singleton.mpr isDrawn⟩
  case ours =>
    have belongs : [record].filter (·.intentId == intentId) = [record] := by simp [ofIntent]
    rw [filtered, belongs]
    exact (List.perm_append_singleton record _).trans (tally.ours.cons record)
  case others =>
    intro other otherIntent
    have elsewhere : [record].filter (·.intentId == other) = [] := by
      simp [ofIntent, otherIntent.symm]
    rw [filtered, elsewhere, List.append_nil, tally.others other otherIntent]

theorem overwrite
    (tally : Tally identifiers drawn intentId base store (record :: records))
    (renewed : PolicyRecord)
    (sameId : renewed.id = record.id)
    (sameIntent : renewed.intentId = record.intentId)
    (sameCreation : renewed.createdAt = record.createdAt) :
    Tally identifiers drawn intentId base (store.saveRecord renewed) (renewed :: records) := by
  obtain ⟨stored, ofIntent⟩ := tally.mem_of_mem List.mem_cons_self
  have found := MemoryStore.findRecord_of_mem stored tally.distinctIds
  have saved : (store.saveRecord renewed).records =
      (store.deleteRecord record.id).records ++ [renewed] := by
    rw [← sameId] at found ⊢
    rw [MemoryStore.saveRecord, found, Option.map_some, Option.getD_some, ← sameCreation]
    rfl
  refine tally.delete.append saved ?_ ?_ (sameIntent.trans ofIntent)
  · rw [sameId]
    intro member
    obtain ⟨other, otherStored, otherId⟩ := List.mem_map.mp member
    exact bne_iff_ne.mp (List.mem_filter.mp otherStored).2 otherId
  · rw [sameId]
    exact tally.identified record stored

/-- A record of the intent is saved under the identifier that is drawn next. -/
theorem add
    (tally : Tally identifiers drawn intentId base store records)
    (fresh : Function.Injective identifiers)
    (record : PolicyRecord)
    (named : record.id = identifiers drawn)
    (ofIntent : record.intentId = intentId) :
    Tally identifiers (drawn + 1) intentId base (store.saveRecord record) (record :: records) := by
  have notStored : ∀ other ∈ store.records, other.id ≠ record.id := by
    rw [named]
    exact fun other member => (tally.identified other member).ne_next fresh
  have saved : (store.saveRecord record).records = store.records ++ [record] := by
    have missing : store.findRecord record.id = none := by
      simpa [MemoryStore.findRecord] using notStored
    have noneGoes : store.records.filter (·.id != record.id) = store.records := by
      simpa [List.filter_eq_self] using notStored
    rw [MemoryStore.saveRecord, missing, noneGoes]
    rfl
  refine (tally.draw (Nat.le_succ drawn)).append saved ?_ ⟨drawn, Nat.lt_succ_self drawn, named.symm⟩
    ofIntent
  intro member
  obtain ⟨other, otherStored, sameId⟩ := List.mem_map.mp member
  exact notStored other otherStored sameId

end Tally

section Run

variable {Client : Type} {deployment : Deployment Client} {intentId : String} {now : Instant}
  {start before after : MemoryWorld Client} {execution : Execution} {pending : List PolicyRecord}

/--
While a plan is carried out nothing is stored.  The records that would be stored for the intent
are those that are left so far and those that are still to be treated.
-/
structure Tallying (identifiers : Nat → String) (intentId : String) (start : MemoryWorld Client)
    (execution : Execution) (world : MemoryWorld Client) (pending : List PolicyRecord) : Prop where
  store : world.store = start.store
  drawnLe : start.drawn ≤ world.drawn
  tally : Tally identifiers world.drawn intentId start.store
    (start.store.withChanges execution.applied) (execution.records ++ pending)

/-- Once nothing is left to be treated, the records that are left are what would be stored. -/
theorem Tallying.recordsOf_perm
    {identifiers : Nat → String}
    {store : MemoryStore}
    (tallying : Tallying identifiers intentId start execution after pending)
    (noneUntreated : pending = [])
    (sameRecords : store.records = (start.store.withChanges execution.applied).records) :
    (store.recordsOf intentId).Perm execution.records := by
  have counted := (tallying.tally.of_same sameRecords).ours
  rwa [noneUntreated, List.append_nil] at counted

/-- A record that is treated next is one of the records of the intent. -/
theorem Tallying.inFront
    {identifiers : Nat → String}
    {record : PolicyRecord}
    (tallying : Tallying identifiers intentId start execution before (record :: pending)) :
    Tally identifiers before.drawn intentId start.store
      (start.store.withChanges execution.applied) (record :: (execution.records ++ pending)) :=
  tallying.tally.perm List.perm_middle

/-- A change that has been counted is put behind those that were applied. -/
theorem Tallying.behind
    {identifiers : Nat → String}
    {left : Option PolicyRecord}
    {change : AppliedStep}
    {treated : List PolicyRecord}
    (tallying : Tallying identifiers intentId start execution before treated)
    (sameStore : after.store = before.store)
    (drawnLe : before.drawn ≤ after.drawn)
    (tally : Tally identifiers after.drawn intentId start.store
      ((start.store.withChanges execution.applied).withChange change)
      (left.toList ++ (execution.records ++ pending))) :
    Tallying identifiers intentId start (execution.note left (some change)) after pending where
  store := sameStore.trans tallying.store
  drawnLe := Nat.le_trans tallying.drawnLe drawnLe
  tally := by
    have regrouped : (left.toList ++ (execution.records ++ pending)).Perm
        ((execution.note left (some change)).records ++ pending) := by
      rw [Execution.note, ← List.append_assoc]
      exact List.perm_append_comm.append_right pending
    rw [MemoryStore.withChanges_note]
    exact tally.perm regrouped

/-- A step that goes through keeps count of the records. -/
theorem Tallying.step
    {step : PlanStep}
    {left : Option PolicyRecord}
    {change : Option AppliedStep}
    (tallying : Tallying deployment.identifiers intentId start execution before
      (step.record?.toList ++ pending))
    (fresh : Function.Injective deployment.identifiers)
    (run : deployment.reconciler.StepRun intentId now execution.created before step
      (.ok (left, change)) after) :
    Tallying deployment.identifiers intentId start (execution.note left change) after pending := by
  cases run with
  | deleted _ answered =>
      obtain ⟨client, -, rfl⟩ := Action.of_run_within answered
      exact tallying.behind rfl (Nat.le_refl _) tallying.inFront.delete
  | dropped => exact tallying.behind rfl (Nat.le_refl _) tallying.inFront.delete
  | @unchanged record =>
      have regrouped : execution.records ++ (record :: pending) =
          (execution.note (some record) none).records ++ pending := by
        simp [Execution.note]
      refine ⟨tallying.store, tallying.drawnLe, ?_⟩
      rw [Execution.applied_note_none, ← regrouped]
      exact tallying.tally
  | @updated record policy _ _ answered =>
      obtain ⟨client, -, rfl⟩ := Action.of_run_within answered
      exact tallying.behind rfl (Nat.le_refl _)
        (tallying.inFront.overwrite (record.renewed record.externalId policy now) rfl rfl rfl)
  | @registered record policy externalId _ _ answered =>
      obtain ⟨client, -, rfl⟩ := Action.of_run_within answered
      exact tallying.behind rfl (Nat.le_refl _)
        (tallying.inFront.overwrite (record.renewed externalId policy now) rfl rfl rfl)
  | @created policy id externalId reached _ answered named =>
      obtain ⟨client, -, rfl⟩ := Action.of_run_within answered
      obtain ⟨rfl, rfl⟩ := Prod.mk.inj named
      exact tallying.behind rfl (Nat.le_succ _) (tallying.tally.add fresh _ rfl rfl)

theorem Deployment.frame_of_refuses
    {call : EnforcementCall}
    {cause : EnforcementError}
    (refuses : deployment.reconciler.enforcement.Refuses before cause after call) :
    after.store = before.store ∧ after.drawn = before.drawn := by
  obtain ⟨client, -, rfl⟩ := Deployment.of_refuses refuses
  exact ⟨rfl, rfl⟩

/--
Wherever a plan stops, the steps in front have been carried out and the records of the steps
behind are still to be treated.
-/
theorem Tallying.split
    {steps : List PlanStep}
    {final : Execution}
    (tallying : Tallying deployment.identifiers intentId start execution before
      (steps.filterMap PlanStep.record?))
    (fresh : Function.Injective deployment.identifiers)
    (notStopped : execution.interruption = none)
    (run : deployment.reconciler.PlanRun intentId now steps execution before final after) :
    ∃ done rest, steps = done ++ rest ∧
      Carried intentId now done execution { final with interruption := none } ∧
      Tallying deployment.identifiers intentId start final after
        (rest.filterMap PlanStep.record?) ∧
      (final.interruption = none ↔ rest = []) := by
  induction run with
  | @finished execution =>
      have unchanged : { execution with interruption := none } = execution := by
        rw [← notStopped]
      refine ⟨[], [], rfl, ?_, tallying, by simp [notStopped]⟩
      rw [unchanged]
      exact .nil execution
  | @stepped step _ _ _ _ _ _ _ _ run _ inductionHypothesis =>
      rw [PlanStep.filterMap_record?_cons] at tallying
      obtain ⟨done, rest, stepsEq, carried, tallyingBehind, ending⟩ :=
        inductionHypothesis (tallying.step fresh run) notStopped
      exact ⟨step :: done, rest, by rw [stepsEq, List.cons_append], .cons run.yields carried,
        tallyingBehind, ending⟩
  | @stopped step rest execution _ _ _ run =>
      have unchanged : { execution with interruption := none } = execution := by
        rw [← notStopped]
      cases run with
      | refused _ answered =>
          -- The record whose step fails is still to be treated, as are those behind it.
          obtain ⟨storeEq, drawnEq⟩ := Deployment.frame_of_refuses answered
          refine ⟨[], step :: rest, rfl, ?_, ⟨storeEq.trans tallying.store, ?_, ?_⟩, by simp⟩
          · rw [unchanged]
            exact .nil execution
          · rw [drawnEq]
            exact tallying.drawnLe
          · rw [drawnEq]
            exact tallying.tally

/--
How far a plan for the records of an intent was carried out: the steps in front went through,
and the records of the steps behind are still to be treated.
-/
structure Progress (identifiers : Nat → String) (intentId : String) (now : Instant)
    (steps : List PlanStep) (start : MemoryWorld Client) (execution : Execution)
    (world : MemoryWorld Client) (done rest : List PlanStep) : Prop where
  planned : steps = done ++ rest
  carried : Carried intentId now done {} { execution with interruption := none }
  tallying : Tallying identifiers intentId start execution world
    (rest.filterMap PlanStep.record?)
  finished_iff : execution.interruption = none ↔ rest = []

/-- Before a plan is carried out, all records of the intent are still to be treated. -/
theorem Tallying.planned
    {identifiers : Nat → String}
    {old : List PolicyRecord}
    (distinctIds : (before.store.records.map (·.id)).Nodup)
    (identified : ∀ record ∈ before.store.records, IsDrawn identifiers before.drawn record.id)
    (listed : old.Perm (before.store.recordsOf intentId))
    (policies : List Policy) :
    Tallying identifiers intentId before {} before
      ((planReconciliation old policies).filterMap PlanStep.record?) := by
  rw [planReconciliation_eq, records_of_alignedPlan]
  exact ⟨rfl, Nat.le_refl _, distinctIds, identified,
    ((oldestFirst_perm old).trans listed).symm, fun _ _ => rfl⟩

/-- Reconciliation makes progress with the records of an intent, however far it gets. -/
theorem progress_of_reconcile
    {old : List PolicyRecord}
    {policies : List Policy}
    (fresh : Function.Injective deployment.identifiers)
    (distinctIds : (before.store.records.map (·.id)).Nodup)
    (identified : ∀ record ∈ before.store.records,
      IsDrawn deployment.identifiers before.drawn record.id)
    (listed : old.Perm (before.store.recordsOf intentId))
    (ran : deployment.reconciler.reconcile intentId old policies now before = (execution, after)) :
    ∃ done rest, Progress deployment.identifiers intentId now (planReconciliation old policies)
      before execution after done rest := by
  have tallying := Tallying.planned distinctIds identified listed policies
  obtain ⟨done, rest, planned, carried, tallyingBehind, finished⟩ :=
    tallying.split fresh rfl (Reconciler.planRun_of_reconcile ran)
  exact ⟨done, rest, planned, carried, tallyingBehind, finished⟩

/-- What has not been treated at the end of a plan is nothing. -/
theorem Progress.untreated
    {steps done rest : List PlanStep}
    (progress : Progress deployment.identifiers intentId now steps start execution after done rest) :
    ∃ untreated, Tallying deployment.identifiers intentId start execution after untreated ∧
      (execution.interruption = none → untreated = []) := by
  refine ⟨rest.filterMap PlanStep.record?, progress.tallying, fun finished => ?_⟩
  rw [progress.finished_iff.mp finished]
  rfl

end Run

end IntentPolicy
