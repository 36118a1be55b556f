import IntentPolicy.Proofs.Service.Soundness
import IntentPolicy.Proofs.Store.Holding

namespace IntentPolicy

/-!
# Changes that can be stored

What a plan changes for an intent belongs to that intent, has an identifier of its own or that
of a record of the intent, and has times in whole microseconds.  Storing one such change after
the other leaves what is stored sound.
-/

theorem Instant.IsWhole.addMicroseconds
    {instant : Instant}
    (whole : instant.IsWhole)
    (microseconds : Nat) :
    (instant.addMicroseconds microseconds).IsWhole where
  isTime := whole.isTime.addMicroseconds microseconds
  cut := by rw [Instant.cut_addMicroseconds, whole.cut]

/-- A change that can be stored for an intent, with one of the new policies or without a NaN. -/
structure AppliedStep.Fits (identifiers : Nat → String) (intentId : String)
    (policies : List Policy) (store : MemoryStore) (drawn : Nat) (change : AppliedStep) :
    Prop where
  ofIntent : change.record.intentId = intentId
  isDrawn : IsDrawn identifiers drawn change.record.id
  createdAt : change.record.createdAt.IsWhole
  updatedAt : change.record.updatedAt.IsWhole
  policy : change.record.policy ∈ policies ∨ change.record.policy.IsNaNFree
  apart : ∀ held ∈ store.records, held.id = change.record.id → held.intentId = intentId

/-- The policy that a step is to put in place. -/
def PlanStep.policy? : PlanStep → Option Policy
  | .delete _ => none
  | .update _ policy => some policy
  | .unchanged _ => none
  | .create policy => some policy

/-- A step of a plan for the stored records of an intent. -/
structure PlanStep.Suits (intentId : String) (policies : List Policy) (store : MemoryStore)
    (step : PlanStep) : Prop where
  record : ∀ held, step.record? = some held → held ∈ store.records ∧ held.intentId = intentId
  policy : ∀ policy, step.policy? = some policy → policy ∈ policies

variable {Client : Type} {deployment : Deployment Client} {intentId : String} {now : Instant}
  {policies : List Policy} {store : MemoryStore} {before after : MemoryWorld Client}
  {execution : Execution}

theorem AppliedStep.Fits.mono
    {identifiers : Nat → String}
    {drawn more : Nat}
    {change : AppliedStep}
    (fits : change.Fits identifiers intentId policies store drawn)
    (drawnLe : drawn ≤ more) :
    change.Fits identifiers intentId policies store more :=
  { fits with isDrawn := fits.isDrawn.mono drawnLe }

/-- Only the records of the store matter. -/
theorem AppliedStep.Fits.of_records
    {identifiers : Nat → String}
    {twin : MemoryStore}
    {drawn : Nat}
    {change : AppliedStep}
    (fits : change.Fits identifiers intentId policies store drawn)
    (sameRecords : twin.records = store.records) :
    change.Fits identifiers intentId policies twin drawn :=
  { fits with apart := fun held stored => fits.apart held (sameRecords ▸ stored) }

section Plans

variable {old : List PolicyRecord} {step : PlanStep}

theorem mem_of_planReconciliation
    {held : PolicyRecord}
    (planned : step ∈ planReconciliation old policies)
    (about : step.record? = some held) :
    held ∈ old := by
  have isOld {record : PolicyRecord} (pends : record ∈ oldestFirst old) : record ∈ old :=
    (oldestFirst_perm old).mem_iff.mp pends
  rcases mem_alignedPlan (planReconciliation_eq old policies ▸ planned) with
    ⟨record, pends, rfl⟩ | ⟨record, pends, policy, wanted, rfl⟩ | ⟨policy, wanted, rfl⟩
  · obtain rfl := Option.some.inj about
    exact isOld pends
  · rw [PlanStep.record?_keep] at about
    obtain rfl := Option.some.inj about
    exact isOld pends
  · cases about

theorem policy_mem_of_planReconciliation
    {policy : Policy}
    (planned : step ∈ planReconciliation old policies)
    (puts : step.policy? = some policy) :
    policy ∈ policies := by
  rcases mem_alignedPlan (planReconciliation_eq old policies ▸ planned) with
    ⟨record, pends, rfl⟩ | ⟨record, pends, other, wanted, rfl⟩ | ⟨other, wanted, rfl⟩
  · cases puts
  · rw [PlanStep.keep] at puts
    split at puts
    · cases puts
    · obtain rfl := Option.some.inj puts
      exact wanted
  · obtain rfl := Option.some.inj puts
    exact wanted

theorem suits_of_planReconciliation
    (stored : ∀ record ∈ old, record ∈ store.records ∧ record.intentId = intentId)
    (planned : step ∈ planReconciliation old policies) :
    step.Suits intentId policies store where
  record held about := stored held (mem_of_planReconciliation planned about)
  policy _ puts := policy_mem_of_planReconciliation planned puts

end Plans

namespace Reconciler

/-- A step stores nothing, and the identifiers that it draws are not given back. -/
theorem StepRun.untouched
    {created : Nat}
    {step : PlanStep}
    {result : Except Interruption (Option PolicyRecord × Option AppliedStep)}
    (run : deployment.reconciler.StepRun intentId now created before step result after) :
    after.store = before.store ∧ before.drawn ≤ after.drawn := by
  cases run with
  | deleted _ answered =>
      obtain ⟨client, -, rfl⟩ := Action.of_run_within answered
      exact ⟨rfl, Nat.le_refl _⟩
  | dropped => exact ⟨rfl, Nat.le_refl _⟩
  | unchanged => exact ⟨rfl, Nat.le_refl _⟩
  | updated _ answered =>
      obtain ⟨client, -, rfl⟩ := Action.of_run_within answered
      exact ⟨rfl, Nat.le_refl _⟩
  | registered _ answered =>
      obtain ⟨client, -, rfl⟩ := Action.of_run_within answered
      exact ⟨rfl, Nat.le_refl _⟩
  | created answered named =>
      obtain ⟨client, -, rfl⟩ := Action.of_run_within answered
      obtain ⟨-, rfl⟩ := Prod.mk.inj named
      exact ⟨rfl, Nat.le_succ _⟩
  | refused _ answered =>
      obtain ⟨sameStore, sameDrawn⟩ := Deployment.frame_of_refuses answered
      exact ⟨sameStore, Nat.le_of_eq sameDrawn.symm⟩

theorem PlanRun.untouched
    {steps : List PlanStep}
    {final : Execution}
    (run : deployment.reconciler.PlanRun intentId now steps execution before final after) :
    after.store = before.store ∧ before.drawn ≤ after.drawn := by
  induction run with
  | finished => exact ⟨rfl, Nat.le_refl _⟩
  | stepped run _ inductionHypothesis =>
      obtain ⟨sameStore, drawnLe⟩ := run.untouched
      obtain ⟨sameBehind, drawnLeBehind⟩ := inductionHypothesis
      exact ⟨sameBehind.trans sameStore, Nat.le_trans drawnLe drawnLeBehind⟩
  | stopped run => exact run.untouched

/-- What a step changes can be stored. -/
theorem StepRun.fits
    {created : Nat}
    {step : PlanStep}
    {left : Option PolicyRecord}
    {change : AppliedStep}
    (run : deployment.reconciler.StepRun intentId now created before step
      (.ok (left, some change)) after)
    (fresh : Function.Injective deployment.identifiers)
    (distinctIds : (store.records.map (·.id)).Nodup)
    (identified : ∀ record ∈ store.records,
      IsDrawn deployment.identifiers before.drawn record.id)
    (storable : ∀ record ∈ store.records, record.IsStorable)
    (whole : now.IsWhole)
    (suits : step.Suits intentId policies store) :
    change.Fits deployment.identifiers intentId policies store after.drawn := by
  have drawnLe := run.untouched.2
  -- A record that is held keeps its identifier, which no record of another intent has.
  have ofHeld {held : PolicyRecord} (about : step.record? = some held)
      (sameId : change.record.id = held.id) (sameIntent : change.record.intentId = held.intentId)
      (sameCreation : change.record.createdAt = held.createdAt)
      (updatedAt : change.record.updatedAt.IsWhole)
      (policy : change.record.policy ∈ policies ∨ change.record.policy.IsNaNFree) :
      change.Fits deployment.identifiers intentId policies store after.drawn := by
    obtain ⟨stored, ofIntent⟩ := suits.record held about
    refine ⟨sameIntent.trans ofIntent, ?_, ?_, updatedAt, policy, ?_⟩
    · exact sameId ▸ (identified held stored).mono drawnLe
    · exact sameCreation ▸ (storable held stored).createdAt
    · intro other otherStored otherId
      obtain rfl := List.inj_on_of_nodup_map distinctIds otherStored stored (otherId.trans sameId)
      exact ofIntent
  cases run with
  | @deleted record =>
      have held := storable record (suits.record record rfl).1
      exact ofHeld rfl rfl rfl rfl held.updatedAt (Or.inr held.nanFree)
  | @dropped record =>
      have held := storable record (suits.record record rfl).1
      exact ofHeld rfl rfl rfl rfl held.updatedAt (Or.inr held.nanFree)
  | @updated record policy =>
      exact ofHeld rfl rfl rfl rfl whole (Or.inl (suits.policy policy rfl))
  | @registered record policy =>
      exact ofHeld rfl rfl rfl rfl whole (Or.inl (suits.policy policy rfl))
  | @created policy _ _ reached _ answered named =>
      obtain ⟨client, -, rfl⟩ := Action.of_run_within answered
      obtain ⟨rfl, rfl⟩ := Prod.mk.inj named
      refine ⟨rfl, ⟨before.drawn, Nat.lt_succ_self _, rfl⟩, whole.addMicroseconds created,
        whole.addMicroseconds created, Or.inl (suits.policy policy rfl), ?_⟩
      intro held stored sameId
      exact ((identified held stored).ne_next fresh sameId).elim

theorem PlanRun.fits
    {steps : List PlanStep}
    {final : Execution}
    (run : deployment.reconciler.PlanRun intentId now steps execution before final after)
    (fresh : Function.Injective deployment.identifiers)
    (distinctIds : (store.records.map (·.id)).Nodup)
    (identified : ∀ record ∈ store.records,
      IsDrawn deployment.identifiers before.drawn record.id)
    (storable : ∀ record ∈ store.records, record.IsStorable)
    (whole : now.IsWhole)
    (suits : ∀ step ∈ steps, step.Suits intentId policies store) :
    ∀ change ∈ final.applied, change ∈ execution.applied ∨
      change.Fits deployment.identifiers intentId policies store after.drawn := by
  induction run with
  | finished => exact fun change member => Or.inl member
  | @stepped step _ execution _ _ change _ _ _ run behind inductionHypothesis =>
      obtain ⟨suitsHere, suitsBehind⟩ := List.forall_mem_cons.mp suits
      have stillIdentified := fun record stored => (identified record stored).mono run.untouched.2
      intro other member
      rcases inductionHypothesis stillIdentified suitsBehind other member with noted | fits
      · rcases List.mem_append.mp noted with earlier | here
        · exact Or.inl earlier
        · obtain rfl := Option.mem_toList.mp here
          have fits := run.fits fresh distinctIds identified storable whole suitsHere
          exact Or.inr (fits.mono behind.untouched.2)
      · exact Or.inr fits
  | stopped => exact fun change member => Or.inl member

/-- Records that hold whole microseconds, and a clock that shows them, leave such records. -/
theorem PlanRun.cut_eq
    {State : Type}
    {reconciler : Reconciler State}
    {steps : List PlanStep}
    {final : Execution}
    {earlier later : State}
    (run : reconciler.PlanRun intentId now steps execution earlier final later)
    (whole : now.cut = now)
    (held : ∀ step ∈ steps, ∀ record, step.record? = some record → record.cut = record)
    (noted : ∀ record ∈ execution.records, record.cut = record) :
    ∀ record ∈ final.records, record.cut = record := by
  induction run with
  | finished => exact noted
  | @stepped step _ execution _ left change _ _ _ run _ inductionHypothesis =>
      obtain ⟨heldHere, heldBehind⟩ := List.forall_mem_cons.mp held
      refine inductionHypothesis heldBehind fun record member => ?_
      rcases List.mem_append.mp member with earlier | here
      · exact noted record earlier
      · have yields := run.yields
        cases yields with
        | deleted => cases here
        | unchanged other =>
            obtain rfl := List.mem_singleton.mp here
            exact heldHere _ rfl
        | updated other policy externalId =>
            obtain rfl := List.mem_singleton.mp here
            have otherCreated := congrArg PolicyRecord.createdAt (heldHere other rfl)
            simp only [PolicyRecord.cut] at otherCreated
            simp only [PolicyRecord.cut, PolicyRecord.renewed, otherCreated, whole]
        | created policy id externalId =>
            obtain rfl := List.mem_singleton.mp here
            simp only [PolicyRecord.cut, newRecord, Instant.cut_addMicroseconds, whole]
  | stopped => exact noted

end Reconciler

namespace MemoryWorld.IsSound

variable {identifiers : Nat → String}

/-- What is left when entries are taken away is sound, whatever else is drawn. -/
theorem of_sublist
    (sound : before.IsSound identifiers)
    (drawnLe : before.drawn ≤ after.drawn)
    (intents : after.store.intents.Sublist before.store.intents)
    (records : after.store.records.Sublist before.store.records) :
    after.IsSound identifiers where
  distinctIds := sound.distinctIds.sublist (records.map _)
  identified record stored := (sound.identified record (records.subset stored)).mono drawnLe
  belonging record stored := (sound.belonging record (records.subset stored)).mono drawnLe
  entered intent stored := (sound.entered intent (intents.subset stored)).mono drawnLe
  readable intent stored := sound.readable intent (intents.subset stored)

theorem saveIntent
    {intent : IntentRecord}
    (sound : before.IsSound identifiers)
    (isDrawn : IsDrawn identifiers before.drawn intent.id)
    (readable : ∃ sentence, parseSentence intent.text = .ok sentence) :
    MemoryWorld.IsSound identifiers { before with store := before.store.saveIntent intent } := by
  have change : MemoryStore.IntentsChange intent.id before.store
      (before.store.saveIntent intent).intents := .saved rfl readable
  refine ⟨sound.distinctIds, sound.identified, sound.belonging, ?_, ?_⟩
  · intro other stored
    rcases change.mem stored with held | ⟨sameId, -⟩
    · exact sound.entered other held
    · exact sameId ▸ isDrawn
  · intro other stored
    rcases change.mem stored with held | ⟨-, isSentence⟩
    · exact sound.readable other held
    · exact isSentence

theorem saveRecord
    {record : PolicyRecord}
    (sound : before.IsSound identifiers)
    (isDrawn : IsDrawn identifiers before.drawn record.id)
    (belongs : IsDrawn identifiers before.drawn record.intentId) :
    MemoryWorld.IsSound identifiers { before with store := before.store.saveRecord record } := by
  refine ⟨?_, ?_, ?_, sound.entered, sound.readable⟩
  · exact nodup_save sound.distinctIds rfl
  · intro other stored
    rcases MemoryStore.mem_saveRecord stored with held | ⟨_, rfl⟩
    · exact sound.identified other held
    · exact isDrawn
  · intro other stored
    rcases MemoryStore.mem_saveRecord stored with held | ⟨_, rfl⟩
    · exact sound.belonging other held
    · exact belongs

end MemoryWorld.IsSound

/-- Storing one change leaves the records of other intents apart from the changes to come. -/
theorem AppliedStep.Fits.withChange
    {identifiers : Nat → String}
    {drawn : Nat}
    {change behind : AppliedStep}
    (fits : change.Fits identifiers intentId policies store drawn)
    (fitsBehind : behind.Fits identifiers intentId policies store drawn) :
    behind.Fits identifiers intentId policies (store.withChange change) drawn := by
  refine { fitsBehind with apart := fun held stored sameId => ?_ }
  cases change with
  | created record =>
      rcases MemoryStore.mem_saveRecord stored with heldBefore | ⟨_, rfl⟩
      · exact fitsBehind.apart held heldBefore sameId
      · exact fits.ofIntent
  | updated record =>
      rcases MemoryStore.mem_saveRecord stored with heldBefore | ⟨_, rfl⟩
      · exact fitsBehind.apart held heldBefore sameId
      · exact fits.ofIntent
  | deleted record => exact fitsBehind.apart held (List.mem_filter.mp stored).1 sameId

end IntentPolicy
