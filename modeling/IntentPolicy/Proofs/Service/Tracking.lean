import IntentPolicy.Proofs.Service.DatabaseDeployment

namespace IntentPolicy

/-!
# The service over a database follows the service in memory

Every operation over a database does what it does over the store in memory, at a clock that
shows whole microseconds: it reads the same, asks the same calls, and writes what it writes
there.  It goes wrong on its own account only where it has to read a time that cannot be read
back, or has to write a NaN.
-/

variable {Client : Type} {deployment : Deployment Client} {identifiers : Nat → String}
  {memory : MemoryWorld Client} {world : DatabaseWorld Client} {faults : Prop}
  {id intentId text : String} {policies : List Policy} {now : Instant}

/-- The rates of a store in a part of a state are read in that part. -/
theorem Repositories.rateTable_within
    {Whole Piece : Type}
    (store : Repositories Piece)
    (part : Part Whole Piece) :
    (store.within part).rateTable = store.rateTable.within part := by
  have listed : (store.within part).listRates = store.listRates.within part := rfl
  funext whole
  change (store.within part).rateTable.run whole = (store.rateTable.within part).run whole
  rw [Repositories.rateTable, Action.run_bind, listed, Action.run_within, Action.run_within,
    Repositories.rateTable, Action.run_bind]
  rcases store.listRates.run (part.get whole) with ⟨error | rates, piece⟩
  · rfl
  · rfl

namespace Tracks

theorem translate
    (tracks : Tracks identifiers memory world)
    (canRead : faults ∨ ∀ rate ∈ memory.store.rates, rate.updatedAt.IsWritable)
    (text : String) :
    Follows faults (Tracks identifiers)
      (fun translated other left =>
        deployment.translation memory.store text = .ok translated ∧ other = translated ∧
          memory = left)
      ((deployment.service.translate text).run memory)
      ((deployment.databaseService.translate text).run world) := by
  obtain ⟨table, unsigned, reads⟩ := tracks.holds.rateTable
  have looked : MemoryStore.repositories.rateTable.run memory.store =
      (.ok memory.store.rateTable, memory.store) := rfl
  have same := Translator.refine_of_isUnsigned unsigned deployment.baselines text
  have readsRates := tracks.reads looked reads canRead
  rw [← Repositories.rateTable_within, ← Repositories.rateTable_within] at readsRates
  rw [Service.translate, Service.translate]
  refine .bind (.adapt _ readsRates) ?_
  rintro _ _ _ reached ⟨rfl, rfl, rfl, -⟩ stillTracks
  rw [deployment.service_baselines, deployment.databaseService_baselines, same,
    Deployment.translation]
  cases (⟨memory.store.rateTable, deployment.baselines⟩ : Translator).refine text with
  | error error => exact .failed stillTracks
  | ok translated => exact .answered ⟨rfl, rfl, rfl⟩ stillTracks

theorem find
    (tracks : Tracks identifiers memory world)
    (canRead : faults ∨ ∀ intent ∈ memory.store.findIntent id, intent.IsWritable) :
    Follows faults (Tracks identifiers)
      (fun intent other left =>
        memory.store.findIntent id = some intent ∧ other = intent ∧ memory = left)
      ((deployment.service.find id).run memory)
      ((deployment.databaseService.find id).run world) := by
  have looked : (MemoryStore.repositories.findIntent id).run memory.store =
      (.ok (memory.store.findIntent id), memory.store) := rfl
  rw [Service.find, Service.find]
  refine .bind (.adapt _ (tracks.reads looked (tracks.holds.findIntent id) canRead)) ?_
  rintro _ _ _ reached ⟨rfl, rfl, rfl, -⟩ stillTracks
  cases memory.store.findIntent id with
  | none => exact .failed stillTracks
  | some intent => exact .answered ⟨rfl, rfl, rfl⟩ stillTracks

end Tracks

/--
What carrying out a plan has come to on both sides: like executions, with changes that can be
stored, while nothing has been stored yet.
-/
structure Enforced (deployment : Deployment Client) (intentId : String) (policies : List Policy)
    (now : Instant) (memory : MemoryWorld Client) (execution other : Execution)
    (left : MemoryWorld Client) : Prop where
  like : execution.IsLike other
  store : left.store = memory.store
  drawnLe : memory.drawn ≤ left.drawn
  fits : ∀ change ∈ execution.applied,
    change.Fits deployment.identifiers intentId policies memory.store left.drawn
  cut : now.cut = now → ∀ record ∈ other.records, record.cut = record

namespace Tracks

/-- Records that are read back for a plan lead to the plan for the records that are held. -/
theorem enforce
    (tracks : Tracks deployment.identifiers memory world)
    (fresh : Function.Injective deployment.identifiers)
    (isTime : now.IsTime)
    {old oldRead : List PolicyRecord}
    (stored : ∀ record ∈ old, record ∈ memory.store.records ∧ record.intentId = intentId)
    (read : oldRead = old.map PolicyRecord.stored) :
    Follows faults (Tracks deployment.identifiers)
      (fun execution other left =>
        Enforced deployment intentId policies now memory execution other left)
      ((liftM (deployment.service.enforce intentId
          (deployment.reconciler.reconcile intentId old policies now.cut)) :
          Action (MemoryWorld Client) ServiceError Execution).run memory)
      ((liftM (deployment.databaseService.enforce intentId
          (deployment.databaseReconciler.reconcile intentId oldRead policies now)) :
          Action (DatabaseWorld Client) ServiceError Execution).run world) := by
  subst read
  have storable {record : PolicyRecord} (isOld : record ∈ old) : record.IsStorable :=
    tracks.storable (stored record isOld).1
  have likePlans := planReconciliation_isLike (fun _ isOld => (storable isOld).createdAt.cut)
    policies
  have carried : Execution.IsLike
        (deployment.reconciler.reconcile intentId old policies now.cut memory).1
        (deployment.databaseReconciler.reconcile intentId (old.map .stored) policies now world).1 ∧
      Tracks deployment.identifiers
        (deployment.reconciler.reconcile intentId old policies now.cut memory).2
        (deployment.databaseReconciler.reconcile intentId (old.map .stored) policies now world).2 :=
    deployment.reconciler_matches.carryOut now.cut_cut likePlans
      (⟨.nil, .nil, rfl⟩ : Execution.IsLike {} {}) tracks
  rcases ran : deployment.reconciler.reconcile intentId old policies now.cut memory with
    ⟨execution, reached⟩
  rcases otherRan : deployment.databaseReconciler.reconcile intentId (old.map .stored) policies now
    world with ⟨other, otherReached⟩
  rw [ran, otherRan] at carried
  obtain ⟨like, stillTracks⟩ := carried
  have run := Reconciler.planRun_of_reconcile ran
  have otherRun := Reconciler.planRun_of_reconcile otherRan
  obtain ⟨sameStore, drawnLe⟩ := run.untouched
  have fits : ∀ change ∈ execution.applied,
      change.Fits deployment.identifiers intentId policies memory.store reached.drawn := by
    intro change applied
    rcases run.fits fresh tracks.sound.distinctIds tracks.sound.identified
      (fun _ isStored => tracks.storable isStored) isTime.isWhole_cut
      (fun step planned => suits_of_planReconciliation stored planned) change applied with
      none | fits
    · cases none
    · exact fits
  have cut : now.cut = now → ∀ record ∈ other.records, record.cut = record := by
    intro whole
    refine otherRun.cut_eq whole (fun step planned record about => ?_) (fun _ none => by cases none)
    obtain ⟨held, -, rfl⟩ := List.mem_map.mp (mem_of_planReconciliation planned about)
    exact held.stored_cut
  rw [Deployment.enforce_run _ ran, Deployment.databaseEnforce_run _ otherRan]
  exact .answered ⟨like, sameStore, drawnLe, fits, cut⟩ (stillTracks.withEvents _ _)

theorem enforce_enroll
    (tracks : Tracks deployment.identifiers memory world)
    (fresh : Function.Injective deployment.identifiers)
    (isTime : now.IsTime) :
    Follows faults (Tracks deployment.identifiers)
      (fun execution other left =>
        Enforced deployment intentId policies now memory execution other left)
      ((liftM (deployment.service.enforce intentId
          (deployment.reconciler.enroll intentId policies now.cut)) :
          Action (MemoryWorld Client) ServiceError Execution).run memory)
      ((liftM (deployment.databaseService.enforce intentId
          (deployment.databaseReconciler.enroll intentId policies now)) :
          Action (DatabaseWorld Client) ServiceError Execution).run world) := by
  have noneHeld : ∀ record ∈ ([] : List PolicyRecord),
      record ∈ memory.store.records ∧ record.intentId = intentId := by simp
  rw [Reconciler.enroll, Reconciler.enroll]
  exact tracks.enforce fresh isTime noneHeld rfl

theorem enforce_retire
    (tracks : Tracks deployment.identifiers memory world)
    (fresh : Function.Injective deployment.identifiers) :
    Follows faults (Tracks deployment.identifiers)
      (fun execution other left =>
        Enforced deployment intentId [] ⟨0, 0⟩ memory execution other left)
      ((liftM (deployment.service.enforce intentId
          (deployment.reconciler.retire intentId (memory.store.listRecords intentId))) :
          Action (MemoryWorld Client) ServiceError Execution).run memory)
      ((liftM (deployment.databaseService.enforce intentId
          (deployment.databaseReconciler.retire intentId
            ((memory.store.listRecords intentId).map PolicyRecord.stored))) :
          Action (DatabaseWorld Client) ServiceError Execution).run world) := by
  have isTime : Instant.IsTime ⟨0, 0⟩ := ⟨by decide, by decide⟩
  rw [Reconciler.retire_eq_reconcile, Reconciler.retire_eq_reconcile]
  exact tracks.enforce fresh isTime (fun _ listed => MemoryStore.mem_listRecords.mp listed) rfl

section Storing

variable {change other : AppliedStep} {execution otherExecution : Execution}

/-- A changed record is saved on both sides, unless it has a NaN. -/
theorem saveRecord
    {record : PolicyRecord}
    (tracks : Tracks identifiers memory world)
    (fits : change.Fits identifiers intentId policies memory.store memory.drawn)
    (same : change.record.cut = record.cut)
    (entered : (memory.store.findIntent intentId).isSome = true)
    (nanFree : faults ∨ ∀ policy ∈ policies, policy.IsNaNFree) :
    Follows faults (Tracks identifiers)
      (fun _ _ left => { memory with store := memory.store.saveRecord change.record } = left)
      ((deployment.service.repositories.saveRecord change.record).run memory)
      ((deployment.databaseService.repositories.saveRecord record).run world) := by
  have sameRow : Database.repositories.saveRecord record =
      Database.repositories.saveRecord change.record := by
    simp only [Database.repositories, RecordRow.ofRecord_of_cut_eq same]
  by_cases recordNaNFree : change.record.policy.IsNaNFree
  · obtain ⟨held, found⟩ := Option.isSome_iff_exists.mp entered
    have sound := tracks.sound.saveRecord fits.isDrawn
      (fits.ofIntent.symm ▸ tracks.sound.isDrawn_of_found found)
    have sameIntent : ∀ held, memory.store.findRecord change.record.id = some held →
        held.intentId = change.record.intentId := by
      intro held found
      have sameId := List.find?_some found
      exact (fits.apart held (List.mem_of_find?_eq_some found) (beq_iff_eq.mp sameId)).trans
        fits.ofIntent.symm
    have saves := tracks.holds.saveRecord ⟨recordNaNFree, fits.createdAt, fits.updatedAt⟩
      sameIntent (fits.ofIntent.symm ▸ entered)
    rw [← sameRow] at saves
    have changes : (MemoryStore.repositories.saveRecord change.record).run memory.store =
        (.ok (), memory.store.saveRecord change.record) := rfl
    exact (tracks.writes changes saves sound).weaken fun _ _ _ written => written.2.2
  · have mayFault : faults := by
      rcases nanFree with mayFault | noNaN
      · exact mayFault
      · rcases fits.policy with wanted | isNaNFree
        · exact (recordNaNFree (noNaN _ wanted)).elim
        · exact (recordNaNFree isNaNFree).elim
    obtain ⟨error, refused⟩ := tracks.holds.saveRecord_of_nan recordNaNFree
    have notSaved : (deployment.databaseService.repositories.saveRecord record).run world =
        (.error error, world) := by
      rw [← sameRow] at refused
      exact DatabaseWorld.run_of_database refused
    rw [notSaved]
    exact .faulted mayFault tracks

theorem storeStep
    (tracks : Tracks identifiers memory world)
    (like : change.IsLike other)
    (fits : change.Fits identifiers intentId policies memory.store memory.drawn)
    (entered : (memory.store.findIntent intentId).isSome = true)
    (nanFree : faults ∨ ∀ policy ∈ policies, policy.IsNaNFree) :
    Follows faults (Tracks identifiers)
      (fun _ _ left => { memory with store := memory.store.withChange change } = left)
      ((deployment.service.storeStep change).run memory)
      ((deployment.databaseService.storeStep other).run world) := by
  cases like with
  | created same => exact tracks.saveRecord fits same entered nanFree
  | updated same => exact tracks.saveRecord fits same entered nanFree
  | @deleted record read like =>
      obtain ⟨saved, deletes, holds⟩ := tracks.holds.deleteRecord record.id
      have sound : MemoryWorld.IsSound identifiers
          { memory with store := memory.store.deleteRecord record.id } :=
        tracks.sound.of_sublist (Nat.le_refl _) (.refl _) List.filter_sublist
      have deleted : (deployment.databaseService.repositories.deleteRecord read.id).run world =
          (if (memory.store.findRecord record.id).isSome then .ok ()
            else .error (.recordNotFound record.id), { world with database := saved }) := by
        rw [← like.id]
        exact DatabaseWorld.run_of_database deletes
      have stillTracks : Tracks identifiers
          { memory with store := memory.store.deleteRecord record.id }
          { world with database := saved } := ⟨holds, tracks.client, tracks.drawn, sound⟩
      -- A record that is gone already is deleted without an error.
      have answered : (deployment.databaseService.storeStep (.deleted read)).run world =
          (.ok (), { world with database := saved }) := by
        rw [Service.storeStep]
        cases found : memory.store.findRecord record.id with
        | some held =>
            rw [found] at deleted
            exact Action.run_tryCatch_ok _ deleted
        | none =>
            rw [found] at deleted
            rw [Action.run_tryCatch_error _ deleted]
            rfl
      rw [Deployment.storeStep_run, answered]
      exact .answered rfl stillTracks

theorem storeSteps
    {changes others : List AppliedStep}
    (tracks : Tracks identifiers memory world)
    (like : List.Forall₂ AppliedStep.IsLike changes others)
    (fits : ∀ change ∈ changes,
      change.Fits identifiers intentId policies memory.store memory.drawn)
    (entered : changes ≠ [] → (memory.store.findIntent intentId).isSome = true)
    (nanFree : faults ∨ ∀ policy ∈ policies, policy.IsNaNFree) :
    Follows faults (Tracks identifiers)
      (fun _ _ left => { memory with store := memory.store.withChanges changes } = left)
      ((changes.forM deployment.service.storeStep).run memory)
      ((others.forM deployment.databaseService.storeStep).run world) := by
  induction like generalizing memory world with
  | nil => exact .answered rfl tracks
  | @cons change other changes others likeHere _ inductionHypothesis =>
      obtain ⟨fitsHere, fitsBehind⟩ := List.forall_mem_cons.mp fits
      have isEntered := entered (List.cons_ne_nil _ _)
      rw [List.forM, List.forM]
      refine .bind (tracks.storeStep likeHere fitsHere isEntered nanFree) ?_
      rintro _ _ _ reached rfl stillTracks
      refine inductionHypothesis stillTracks ?_ ?_
      · exact fun behind member => fitsHere.withChange (fitsBehind behind member)
      · intro _
        have kept : (memory.store.withChange change).findIntent intentId =
            memory.store.findIntent intentId := MemoryStore.findIntent_withChanges [change]
        rw [kept]
        exact isEntered

/-- The changes of like executions are stored, and a failure is handed on. -/
theorem settle
    (tracks : Tracks identifiers memory world)
    (like : execution.IsLike otherExecution)
    (fits : ∀ change ∈ execution.applied,
      change.Fits identifiers intentId policies memory.store memory.drawn)
    (entered : execution.applied ≠ [] → (memory.store.findIntent intentId).isSome = true)
    (nanFree : faults ∨ ∀ policy ∈ policies, policy.IsNaNFree) :
    Follows faults (Tracks identifiers)
      (fun records others left => execution.interruption = none ∧ execution.records = records ∧
        otherExecution.records = others ∧
        { memory with store := memory.store.withChanges execution.applied } = left)
      ((deployment.service.settle execution).run memory)
      ((deployment.databaseService.settle otherExecution).run world) := by
  rw [Service.settle, Service.settle]
  refine .bind (.adapt _ (tracks.storeSteps like.applied fits entered nanFree)) ?_
  rintro _ _ _ reached rfl stillTracks
  rw [← like.interruption]
  cases execution.interruption with
  | none => exact .answered ⟨rfl, rfl, rfl, rfl⟩ stillTracks
  | some interruption =>
      dsimp only
      rw [← like.failureMessage_eq]
      exact .failed stillTracks

end Storing

end Tracks

end IntentPolicy
