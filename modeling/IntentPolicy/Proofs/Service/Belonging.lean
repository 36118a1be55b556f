import IntentPolicy.Proofs.Service.Explanation

namespace IntentPolicy

/-!
# Intents and records belong together

Intents and records are stored one by one, and a call that fails can stop an operation between
them.  Behind every operation an intent is stored exactly if one of its records is.
-/

/-- The intent is stored if and only if one of its records is. -/
def MemoryStore.Joins (store : MemoryStore) (id : String) : Prop :=
  (store.findIntent id).isSome = true ↔ store.recordsOf id ≠ []

namespace MemoryStore

variable {store : MemoryStore} {id : String}

theorem Joins.of_stored
    {held : IntentRecord}
    (found : store.findIntent id = some held)
    (someRecord : store.recordsOf id ≠ []) :
    store.Joins id :=
  iff_of_true (by rw [found]; rfl) someRecord

theorem Joins.of_absent
    (missing : store.findIntent id = none)
    (noRecord : store.recordsOf id = []) :
    store.Joins id :=
  iff_of_false (by rw [missing]; exact Bool.false_ne_true) (not_not.mpr noRecord)

theorem Joins.of_same
    {before : MemoryStore}
    (joins : before.Joins id)
    (sameIntent : store.findIntent id = before.findIntent id)
    (sameRecords : store.recordsOf id = before.recordsOf id) :
    store.Joins id := by
  rw [Joins, sameIntent, sameRecords]
  exact joins

/-- An intent that was not stored before is found behind the changes made with it. -/
theorem findIntent_withChanges_saveIntent
    {entered : IntentRecord}
    (missing : store.findIntent entered.id = none)
    (changes : List AppliedStep) :
    ((store.saveIntent entered).withChanges changes).findIntent entered.id = some entered := by
  rw [findIntent_withChanges]
  exact findIntent_saveIntent (by simp [missing])

theorem Joins.exists_intent
    {record : PolicyRecord}
    (joins : store.Joins record.intentId)
    (stored : record ∈ store.records) :
    ∃ intent ∈ store.intents, intent.id = record.intentId := by
  have ofIntent := mem_recordsOf.mpr ⟨stored, rfl⟩
  obtain ⟨intent, found⟩ := Option.isSome_iff_exists.mp (joins.mpr (List.ne_nil_of_mem ofIntent))
  exact ⟨intent, stored_of_findIntent found⟩

theorem Joins.exists_record
    {intent : IntentRecord}
    (joins : store.Joins intent.id)
    (stored : intent ∈ store.intents) :
    ∃ record ∈ store.records, record.intentId = intent.id := by
  have isFound : (store.findIntent intent.id).isSome = true := by
    rw [findIntent, List.find?_isSome]
    exact ⟨intent, stored, beq_self_eq_true intent.id⟩
  obtain ⟨record, member⟩ := List.exists_mem_of_ne_nil _ (joins.mp isFound)
  exact ⟨record, mem_recordsOf.mp member⟩

end MemoryStore

/-- The plan for no records creates what is missing. -/
theorem planReconciliation_nil
    (policies : List Policy) :
    planReconciliation [] policies = policies.map .create := by
  simp [planReconciliation, oldestFirst]

section Progress

variable {Client : Type} {identifiers : Nat → String} {id : String} {now : Instant}
  {before reached after : MemoryWorld Client} {steps done rest : List PlanStep}
  {execution : Execution} {record : PolicyRecord} {policy : Policy}

/-- The records that are left and those that are still to be treated are what is stored. -/
theorem Progress.recordsOf_ne_nil
    {store : MemoryStore}
    (progress : Progress identifiers id now steps before execution reached done rest)
    (sameRecords : store.records = (before.store.withChanges execution.applied).records)
    (remains : execution.records ≠ [] ∨ rest.filterMap PlanStep.record? ≠ []) :
    store.recordsOf id ≠ [] := by
  have counted := (progress.tallying.tally.of_same sameRecords).ours
  intro noRecord
  rw [noRecord, List.nil_perm, List.append_eq_nil_iff] at counted
  rcases remains with isLeft | isUntreated
  · exact isLeft counted.1
  · exact isUntreated counted.2

/-- Every step that goes through leaves a record, unless it deletes one. -/
theorem Progress.records_ne_nil
    {step : PlanStep}
    (progress : Progress identifiers id now steps before execution reached done rest)
    (carriedOut : step ∈ done)
    (spares : step.isDelete = false) :
    execution.records ≠ [] := by
  have isLeft : 0 < done.countP fun step => !step.isDelete :=
    List.countP_pos_iff.mpr ⟨step, carriedOut, by rw [spares]; rfl⟩
  have counted := progress.carried.length_records
  rw [← List.length_pos_iff]
  exact Nat.lt_of_lt_of_eq isLeft (by simpa using counted.symm)

/-- A record that is to be kept is left or still to be treated, wherever the plan was cut. -/
theorem Progress.remains_of_keep
    (progress : Progress identifiers id now steps before execution reached done rest)
    (planned : PlanStep.keep record policy ∈ steps) :
    execution.records ≠ [] ∨ rest.filterMap PlanStep.record? ≠ [] := by
  rw [progress.planned, List.mem_append] at planned
  rcases planned with carriedOut | ahead
  · exact Or.inl (progress.records_ne_nil carriedOut (PlanStep.isDelete_keep record policy))
  · have untreated : record ∈ rest.filterMap PlanStep.record? :=
      List.mem_filterMap.mpr ⟨_, ahead, PlanStep.record?_keep record policy⟩
    exact Or.inr (List.ne_nil_of_mem untreated)

/-- While records are only created, each change that was applied leaves one. -/
theorem Progress.records_ne_nil_of_applied
    {policies : List Policy}
    (progress : Progress identifiers id now (planReconciliation [] policies) before execution
      reached done rest)
    (someChange : execution.applied ≠ []) :
    execution.records ≠ [] := by
  have noDeletion : ∀ step ∈ done, step.isDelete = false := by
    have planned := progress.planned
    rw [planReconciliation_nil] at planned
    intro step carriedOut
    have member := List.mem_append_left rest carriedOut
    rw [← planned] at member
    obtain ⟨policy, -, rfl⟩ := List.mem_map.mp member
    rfl
  have enough : execution.applied.length ≤ execution.records.length := by
    simpa using progress.carried.length_applied_le noDeletion
  rw [← List.length_pos_iff] at someChange ⊢
  exact Nat.lt_of_lt_of_le someChange enough

/-- An intent entered with some of its records is stored together with them. -/
theorem Progress.joins_of_entered
    {entered : IntentRecord}
    (progress : Progress identifiers id now steps before execution reached done rest)
    (named : entered.id = id)
    (missing : before.store.findIntent id = none)
    (isLeft : execution.records ≠ []) :
    ((reached.store.saveIntent entered).withChanges execution.applied).Joins id := by
  subst named
  have sameStore : reached.store = before.store := progress.tallying.store
  have sameHere : (before.store.saveIntent entered).records = before.store.records := rfl
  rw [sameStore]
  exact .of_stored (MemoryStore.findIntent_withChanges_saveIntent missing execution.applied)
    (progress.recordsOf_ne_nil
      (MemoryStore.records_withChanges sameHere execution.applied) (Or.inl isLeft))

end Progress

namespace Deployment

variable {Client : Type} {deployment : Deployment Client} {before reached after : MemoryWorld Client}
  {id text : String} {now : Instant} {policies : List Policy} {execution : Execution}

/-- A new intent is stored together with the first of its records. -/
theorem CreateRun.joins
    {owner : String}
    {answer : Except ServiceError IntentView}
    (run : deployment.CreateRun owner text now before answer after)
    (fresh : Function.Injective deployment.identifiers)
    (sound : before.IsSound deployment.identifiers) :
    after.store.Joins (deployment.identifiers before.drawn) := by
  have noIntent := sound.findIntent_next fresh
  have noRecord := sound.recordsOf_next fresh
  cases run with
  | refused => exact .of_absent noIntent noRecord
  | @interrupted _ _ policies entered execution _ reached named entry translated ran =>
      subst named
      obtain ⟨done, rest, progress⟩ := sound.progress_of_enroll fresh ran
      change MemoryStore.Joins ((if execution.applied.isEmpty then reached.store
        else reached.store.saveIntent entered).withChanges execution.applied) _
      cases applied : execution.applied with
      | nil =>
          have sameStore : reached.store = before.store := progress.tallying.store
          exact sameStore ▸ .of_absent noIntent noRecord
      | cons change changes =>
          have someChange : execution.applied ≠ [] := by simp [applied]
          rw [← applied, if_neg (by simpa using someChange)]
          exact progress.joins_of_entered (congrArg IntentRecord.id entry) noIntent
            (progress.records_ne_nil_of_applied someChange)
  | @completed _ _ policies entered execution reached named entry translated ran finished =>
      subst named
      obtain ⟨done, rest, progress⟩ := sound.progress_of_enroll fresh ran
      obtain ⟨policy, others, rfl⟩ := List.exists_cons_of_ne_nil
        (Translator.translate_ne_nil (Translator.parsed_of_refine translated).2)
      have planned := progress.planned
      rw [planReconciliation_nil, progress.finished_iff.mp finished, List.append_nil] at planned
      have created : PlanStep.create policy ∈ done := by simp [← planned]
      exact progress.joins_of_entered (congrArg IntentRecord.id entry) noIntent
        (progress.records_ne_nil created rfl)

theorem UpdateRun.joins
    {answer : Except ServiceError IntentView}
    (run : deployment.UpdateRun id text now before answer after)
    (fresh : Function.Injective deployment.identifiers)
    (sound : before.IsSound deployment.identifiers)
    (joins : before.store.Joins id) :
    after.store.Joins id := by
  -- The intent has had a record, and a sentence has a policy, so one of the records is kept.
  have keeps {held : IntentRecord} {sentence : Intent} {policies : List Policy}
      (found : before.store.findIntent id = some held)
      (translated : deployment.translation before.store text = .ok (sentence, policies)) :
      ∃ record policy, PlanStep.keep record policy ∈
        planReconciliation (before.store.listRecords id) policies := by
    have someRecord := joins.mp (Option.isSome_iff_exists.mpr ⟨held, found⟩)
    refine exists_keep_of_alignedPlan ?_
      (Translator.translate_ne_nil (Translator.parsed_of_refine translated).2)
    intro noRecord
    have same := (oldestFirst_perm _).trans (before.store.listRecords_perm id)
    exact someRecord (List.nil_perm.mp (noRecord ▸ same))
  cases run with
  | refused => exact joins
  | @interrupted held _ policies execution _ reached found translated ran =>
      obtain ⟨done, rest, progress⟩ := sound.progress_of_listed fresh ran
      obtain ⟨record, policy, planned⟩ := keeps found translated
      have storeEq := progress.tallying.store
      have stillFound : (reached.store.withChanges execution.applied).findIntent id = some held :=
        (MemoryStore.findIntent_withChanges _).trans (storeEq ▸ found)
      exact .of_stored stillFound (progress.recordsOf_ne_nil
        (MemoryStore.records_withChanges (congrArg _ storeEq) _) (progress.remains_of_keep planned))
  | @completed held _ policies execution reached found translated ran finished =>
      obtain ⟨done, rest, progress⟩ := sound.progress_of_listed fresh ran
      obtain ⟨record, policy, planned⟩ := keeps found translated
      have storeEq := progress.tallying.store
      obtain ⟨-, rfl⟩ := MemoryStore.stored_of_findIntent found
      let updated : IntentRecord := { held with text := trimmed text, updatedAt := now }
      have updatedFound :
          ((reached.store.withChanges execution.applied).saveIntent updated).findIntent held.id =
            some updated := by
        refine MemoryStore.findIntent_saveIntent fun other otherFound => ?_
        rw [MemoryStore.findIntent_withChanges, storeEq] at otherFound
        rw [← Option.some.inj (found.symm.trans otherFound)]
      exact .of_stored updatedFound (progress.recordsOf_ne_nil
        (MemoryStore.records_withChanges (congrArg _ storeEq) _) (progress.remains_of_keep planned))

/-- A delete that completes leaves nothing of the intent. -/
theorem DeleteRun.absent_of_ok
    {count : Nat}
    (run : deployment.DeleteRun id before (.ok count) after) :
    after.store.findIntent id = none ∧ after.store.recordsOf id = [] := by
  cases run with
  | completed =>
      refine ⟨MemoryStore.findIntent_deleteIntent id, ?_⟩
      rw [MemoryStore.recordsOf, List.filter_eq_nil_iff]
      intro record stored
      have spared := (List.mem_filter.mp stored).2
      simpa using spared

theorem DeleteRun.joins
    {answer : Except ServiceError Nat}
    (run : deployment.DeleteRun id before answer after)
    (fresh : Function.Injective deployment.identifiers)
    (sound : before.IsSound deployment.identifiers)
    (joins : before.store.Joins id) :
    after.store.Joins id := by
  cases run with
  | refused => exact joins
  | @interrupted held execution _ reached found ran stopped =>
      obtain ⟨done, rest, progress⟩ := sound.progress_of_retired fresh ran
      have storeEq := progress.tallying.store
      have stillFound : (reached.store.withChanges execution.applied).findIntent id = some held :=
        (MemoryStore.findIntent_withChanges _).trans (storeEq ▸ found)
      refine .of_stored stillFound (progress.recordsOf_ne_nil
        (MemoryStore.records_withChanges (congrArg _ storeEq) _) (Or.inr ?_))
      -- The call that failed was for a record, which is still there.
      have notFinished : rest ≠ [] := by
        intro finished
        rw [progress.finished_iff.mpr finished] at stopped
        cases stopped
      obtain ⟨step, behind, restEq⟩ := List.exists_cons_of_ne_nil notFinished
      have planned : step ∈ planRetirement (before.store.listRecords id) := by
        rw [progress.planned, restEq]
        simp
      obtain ⟨record, -, rfl⟩ := List.mem_map.mp planned
      rw [restEq]
      simp [PlanStep.record?]
  | completed found ran finished =>
      have gone := DeleteRun.absent_of_ok (.completed found ran finished)
      exact .of_absent gone.1 gone.2

/-- The deployment with every call to enforcement put on record. -/
def recorded (deployment : Deployment Client) : Deployment (Recorded Client) where
  enforcement := deployment.enforcement.recorded
  identifiers := deployment.identifiers
  baselines := deployment.baselines
  correlationId := deployment.correlationId

/-- Of the calls that create policies, each one that goes through is applied. -/
theorem length_succeeded_of_creates
    {final : Execution}
    {start stopped : MemoryWorld (Recorded Client)}
    (run : deployment.recorded.reconciler.PlanRun id now (policies.map .create) execution start
      final stopped) :
    stopped.client.succeeded.length + execution.applied.length =
      start.client.succeeded.length + final.applied.length := by
  induction policies generalizing execution start with
  | nil =>
      cases run
      rfl
  | cons policy policies inductionHypothesis =>
      cases run with
      | stepped run behind =>
          have countBehind := inductionHypothesis behind
          cases run with
          | created answered named =>
              obtain ⟨client, went, rfl⟩ := Action.of_run_within answered
              obtain ⟨-, rfl⟩ := Prod.mk.inj named
              have logged : client.succeeded = start.client.succeeded ++ [.create policy] := by
                simp [Recorded.succeeded, Action.log_of_recorded went, MemoryWorld.clientPart,
                  Except.isOk, Except.toBool]
              simp [Execution.note, MemoryWorld.clientPart, logged] at countBehind
              omega
      | stopped run =>
          cases run with
          | refused asks answered =>
              obtain rfl := Option.some.inj asks
              obtain ⟨client, went, rfl⟩ := Action.of_run_within answered
              have logged : client.succeeded = start.client.succeeded := by
                simp [Recorded.succeeded, Action.log_of_recorded went, MemoryWorld.clientPart,
                  Except.isOk, Except.toBool]
              simp [MemoryWorld.clientPart, logged]

/-- A create that fails before any call went through leaves the store as it was. -/
theorem CreateRun.store_of_error
    {owner : String}
    {error : ServiceError}
    {start stopped : MemoryWorld (Recorded Client)}
    (run : deployment.recorded.CreateRun owner text now start (.error error) stopped)
    (fresh : Function.Injective deployment.recorded.identifiers)
    (sound : start.IsSound deployment.recorded.identifiers)
    (nothingEnforced : stopped.client.succeeded = start.client.succeeded) :
    stopped.store = start.store := by
  cases run with
  | refused => rfl
  | @interrupted _ _ policies entered execution _ reached named entry translated ran =>
      subst named
      obtain ⟨_, _, progress⟩ := sound.progress_of_enroll fresh ran
      have storeEq : reached.store = start.store := progress.tallying.store
      have planned := Reconciler.planRun_of_reconcile ran
      rw [planReconciliation_nil] at planned
      have counted : reached.client.succeeded.length + 0 =
          start.client.succeeded.length + execution.applied.length :=
        length_succeeded_of_creates planned
      have sameCount : reached.client.succeeded.length = start.client.succeeded.length :=
        congrArg List.length nothingEnforced
      have nothingApplied : execution.applied = [] := by
        rw [← List.length_eq_zero_iff]
        omega
      simp [reporting, nothingApplied, storeEq, MemoryStore.withChanges]

/-- Every call keeps intents and records together. -/
theorem joins_serve
    (deployment : Deployment Client)
    (fresh : Function.Injective deployment.identifiers)
    (sound : before.IsSound deployment.identifiers)
    (joins : ∀ id, before.store.Joins id)
    (call : ServiceCall)
    (id : String) :
    (deployment.serve before call).store.Joins id := by
  have run := deployment.serveRun fresh sound call
  by_cases isSubject : call.subject? (deployment.identifiers before.drawn) = some id
  · cases call with
    | create owner text now =>
        obtain rfl := Option.some.inj isSubject
        rw [serve]
        exact (deployment.createRun owner text now before).joins fresh sound
    | update other text now =>
        obtain rfl := Option.some.inj isSubject
        rw [serve]
        exact (deployment.updateRun other text now before).joins fresh sound (joins other)
    | delete other =>
        obtain rfl := Option.some.inj isSubject
        rw [serve]
        exact (deployment.deleteRun other before).joins fresh sound (joins other)
    | saveRate rate => cases isSubject
  · cases run with
    | untouched _ intents records =>
        exact (joins id).of_same (congrArg _ intents) (congrArg _ records)
    | changed subject changed =>
        have apart : id ≠ _ := fun same => isSubject (same ▸ subject)
        exact (joins id).of_same (changed.intents.findIntent_of_ne apart)
          (changed.tally.others id apart)

theorem joins_grantAll
    (fresh : Function.Injective deployment.identifiers)
    (sound : before.IsSound deployment.identifiers)
    (joins : ∀ id, before.store.Joins id)
    (requests : List ServiceRequest) :
    ∀ id, (deployment.grantAll requests before).store.Joins id := by
  induction requests generalizing before with
  | nil => exact joins
  | cons request requests inductionHypothesis =>
      exact inductionHypothesis ((deployment.grantRun fresh sound request).isSound sound)
        ((deployment.under request.baselines).joins_serve fresh sound joins request.call)

end Deployment

/--
Intents and records belong together.  Whatever is asked of a service and whichever calls fail,
every stored record belongs to a stored intent and every stored intent has a stored record; a
create that fails before a call to enforcement went through stores nothing, and a delete that
is answered leaves nothing of the intent.
-/
theorem intents_and_records_belong_together
    {Client : Type}
    (deployment : Deployment Client)
    (fresh : Function.Injective deployment.identifiers)
    (start : MemoryWorld (Recorded Client))
    (noIntents : start.store.intents = [])
    (noRecords : start.store.records = [])
    (requests : List ServiceRequest) :
    let world := deployment.recorded.grantAll requests start
    (∀ record ∈ world.store.records, ∃ intent ∈ world.store.intents,
        intent.id = record.intentId) ∧
      (∀ intent ∈ world.store.intents, ∃ record ∈ world.store.records,
        record.intentId = intent.id) ∧
      ∀ baselines, let service := (deployment.recorded.under baselines).service
        (∀ owner text now error after,
          (service.create owner text now).run world = (.error error, after) →
          after.client.succeeded = world.client.succeeded →
          after.store = world.store ∧
            after.store.findIntent (deployment.identifiers world.drawn) = none) ∧
        ∀ id count after, (service.delete id).run world = (.ok count, after) →
          (∀ intent ∈ after.store.intents, intent.id ≠ id) ∧
            ∀ record ∈ after.store.records, record.intentId ≠ id := by
  intro world
  have startSound : start.IsSound deployment.recorded.identifiers :=
    .of_empty noIntents noRecords
  have startJoins (id : String) : start.store.Joins id := by
    refine .of_absent ?_ ?_
    · rw [MemoryStore.findIntent, noIntents, List.find?_nil]
    · rw [MemoryStore.recordsOf, noRecords, List.filter_nil]
  have recordedFresh : Function.Injective deployment.recorded.identifiers := fresh
  have sound := Deployment.isSound_grantAll recordedFresh startSound requests
  have joins := Deployment.joins_grantAll recordedFresh startSound startJoins requests
  refine ⟨fun record stored => (joins _).exists_intent stored,
    fun intent stored => (joins _).exists_record stored, fun baselines => ⟨?_, ?_⟩⟩
  · intro owner text now error after ran nothingEnforced
    have run : (deployment.under baselines).recorded.CreateRun owner text now world _ _ :=
      (deployment.recorded.under baselines).createRun owner text now world
    rw [ran] at run
    have sameStore : after.store = world.store := run.store_of_error fresh sound nothingEnforced
    exact ⟨sameStore, sameStore ▸ sound.findIntent_next fresh⟩
  · intro id count after ran
    have run := (deployment.recorded.under baselines).deleteRun id world
    rw [ran] at run
    obtain ⟨noIntent, noRecord⟩ := run.absent_of_ok
    constructor
    · intro intent stored sameId
      exact List.find?_eq_none.mp noIntent intent stored (beq_iff_eq.mpr sameId)
    · intro record stored sameId
      exact List.filter_eq_nil_iff.mp noRecord record stored (beq_iff_eq.mpr sameId)

/-- The first of two policies is stored with its intent, when the call for the second fails. -/
theorem intents_and_records_belong_together_behind_interrupted_create :
    let deployment := Shelf.deployment fun call => call == 1
    let start : MemoryWorld (Recorded Shelf) := ⟨{}, ⟨{}, []⟩, 0, []⟩
    let create : ServiceRequest :=
      ⟨{}, .create "ann" "for ann, bob select bitcoin as default" ⟨1, 0⟩⟩
    let world := deployment.recorded.grantAll [create] start
    world.store.records.length = 1 ∧
      (∀ record ∈ world.store.records, ∃ intent ∈ world.store.intents,
        intent.id = record.intentId) ∧
      ∀ intent ∈ world.store.intents, ∃ record ∈ world.store.records,
        record.intentId = intent.id := by
  intro deployment start create
  have joined := intents_and_records_belong_together deployment
    (Shelf.identifiers_injective _) start rfl rfl [create]
  exact ⟨by decide +kernel, joined.1, joined.2.1⟩

end IntentPolicy
