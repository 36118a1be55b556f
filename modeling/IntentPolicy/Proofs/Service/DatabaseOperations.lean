import IntentPolicy.Proofs.Service.Mirroring
import IntentPolicy.Proofs.Service.Tracking

namespace IntentPolicy

/-!
# Operations over a database

Creating, updating, deleting and listing intents over a database follows what the operation does
over the store in memory.  Times that were stored have to be readable, and baselines must not be
NaNs, or the operation may go wrong.
-/

/-- Every stored time can be read back. -/
structure MemoryStore.IsWritable (store : MemoryStore) : Prop where
  intents : ∀ intent ∈ store.intents, intent.IsWritable
  records : ∀ record ∈ store.records, record.IsWritable
  rates : ∀ rate ∈ store.rates, rate.updatedAt.IsWritable

theorem MemoryStore.isWritable_iff
    {store : MemoryStore} :
    store.IsWritable ↔ (∀ intent ∈ store.intents, intent.IsWritable) ∧
      (∀ record ∈ store.records, record.IsWritable) ∧
      ∀ rate ∈ store.rates, rate.updatedAt.IsWritable :=
  ⟨fun ⟨intents, records, rates⟩ => ⟨intents, records, rates⟩,
    fun ⟨intents, records, rates⟩ => ⟨intents, records, rates⟩⟩

instance (store : MemoryStore) : Decidable store.IsWritable :=
  decidable_of_iff _ MemoryStore.isWritable_iff.symm

namespace MemoryStore.IsWritable

variable {store : MemoryStore} {id : String}

theorem empty : IsWritable {} := ⟨by simp, by simp, by simp⟩

theorem findIntent
    (writable : store.IsWritable) :
    ∀ intent ∈ store.findIntent id, intent.IsWritable :=
  fun intent found => writable.intents intent (List.mem_of_find?_eq_some found)

theorem recordsOf
    (writable : store.IsWritable) :
    ∀ record ∈ store.recordsOf id, record.IsWritable :=
  fun record isOurs => writable.records record (MemoryStore.mem_recordsOf.mp isOurs).1

end MemoryStore.IsWritable

/-- Records that compare equal: the same fields, and policies of the same values. -/
structure PolicyRecord.SameAs (left right : PolicyRecord) : Prop where
  fields : { left with policy := right.policy } = right
  policy : left.policy.agrees right.policy = true

/-- Views that compare equal: the same intent, and records that do in the same order. -/
structure IntentView.SameAs (left right : IntentView) : Prop where
  intent : left.intent = right.intent
  policies : List.Forall₂ PolicyRecord.SameAs left.policies right.policies

/-- A record that can be stored compares equal to one that is stored alike. -/
theorem PolicyRecord.IsStorable.sameAs
    {record other : PolicyRecord}
    (storable : record.IsStorable)
    (like : record.IsLike other) :
    record.SameAs other.cut := by
  refine ⟨?_, Policy.agrees_of_stored_eq storable.nanFree (congrArg PolicyRecord.policy like)⟩
  have sameCreation := like.createdAt
  have sameUpdate : record.stored.updatedAt = other.stored.updatedAt := by rw [like]
  simp only [PolicyRecord.stored] at sameUpdate
  rw [storable.createdAt.cut] at sameCreation
  rw [storable.updatedAt.cut] at sameUpdate
  simp only [PolicyRecord.cut, like.id, like.intentId, like.externalId, sameCreation, sameUpdate]

theorem PolicyRecord.IsStorable.sameAs_stored
    {record : PolicyRecord}
    (storable : record.IsStorable) :
    record.SameAs record.stored := by
  have like : record.IsLike record.stored := by simp [PolicyRecord.IsLike, PolicyRecord.stored]
  rw [← record.stored_cut]
  exact storable.sameAs like

/-- The view with its times cut to whole microseconds. -/
def IntentView.cut (view : IntentView) : IntentView :=
  ⟨view.intent.stored, view.policies.map PolicyRecord.cut⟩

/-- What is given back of a view. -/
def IntentView.stored (view : IntentView) : IntentView :=
  ⟨view.intent.stored, view.policies.map PolicyRecord.stored⟩

/-- Views that are stored alike, the intent of the first in whole microseconds. -/
structure IntentView.IsLike (left right : IntentView) : Prop where
  intent : left.intent = right.intent.stored
  policies : List.Forall₂ PolicyRecord.IsLike left.policies right.policies

variable {Client : Type} {deployment : Deployment Client} {identifiers : Nat → String}
  {memory : MemoryWorld Client} {world : DatabaseWorld Client} {faults : Prop}
  {id owner text : String} {policies : List Policy} {now : Instant}

/-- Without NaNs among the baselines there are none among the policies. -/
theorem Deployment.isNaNFree_of_translation
    {store : MemoryStore}
    {sentence : Intent}
    (nanFree : faults ∨ deployment.baselines.IsNaNFree)
    (translated : deployment.translation store text = .ok (sentence, policies)) :
    faults ∨ ∀ policy ∈ policies, policy.IsNaNFree := by
  rcases nanFree with mayFault | noNaN
  · exact Or.inl mayFault
  · exact Or.inr (Translator.translate_isNaNFree noNaN (Translator.parsed_of_refine translated).2)

/-- Records that were enforced alike make up like views of the intent. -/
theorem Enforced.view
    {execution other : Execution}
    {left : MemoryWorld Client}
    {intent otherIntent : IntentRecord}
    (enforced : Enforced deployment id policies now memory execution other left)
    (same : intent = otherIntent.stored)
    (whole : now.cut = now → otherIntent.stored = otherIntent) :
    IntentView.IsLike ⟨intent, execution.records⟩ ⟨otherIntent, other.records⟩ ∧
      (now.cut = now → IntentView.cut ⟨otherIntent, other.records⟩ = ⟨otherIntent, other.records⟩) := by
  refine ⟨⟨same, enforced.like.records⟩, fun isWhole => ?_⟩
  have sameRecords : other.records.map PolicyRecord.cut = other.records :=
    (List.map_congr_left (enforced.cut isWhole)).trans (List.map_id _)
  rw [IntentView.cut, whole isWhole, sameRecords]

namespace Tracks

/-- An intent is saved on both sides. -/
theorem saveIntent
    {intent other : IntentRecord}
    (tracks : Tracks identifiers memory world)
    (same : intent = other.stored)
    (storable : intent.IsStorable)
    (isDrawn : IsDrawn identifiers memory.drawn intent.id)
    (readable : ∃ sentence, parseSentence intent.text = .ok sentence) :
    Follows faults (Tracks identifiers)
      (fun _ _ left => { memory with store := memory.store.saveIntent intent } = left)
      ((Service.persisted (deployment.service.repositories.saveIntent intent)).run memory)
      ((Service.persisted (deployment.databaseService.repositories.saveIntent other)).run world) := by
  have sameRow : Database.repositories.saveIntent other =
      Database.repositories.saveIntent intent := by
    simp only [Database.repositories, same, IntentRow.ofRecord_stored]
  have saves := tracks.holds.saveIntent storable
  rw [← sameRow] at saves
  have changes : (MemoryStore.repositories.saveIntent intent).run memory.store =
      (.ok (), memory.store.saveIntent intent) := rfl
  have sound := tracks.sound.saveIntent isDrawn readable
  exact .adapt _ ((tracks.writes changes saves sound).weaken fun _ _ _ written => written.2.2)

/-- The records of a new intent are stored on both sides, and handed on with the intent. -/
theorem settle_created
    {execution other : Execution}
    {reached left : MemoryWorld Client}
    {otherLeft : DatabaseWorld Client}
    {intent otherIntent : IntentRecord}
    (enforced : Enforced deployment id policies now memory execution other reached)
    (same : intent = otherIntent.stored)
    (whole : now.cut = now → otherIntent.stored = otherIntent)
    (tracks : Tracks deployment.identifiers left otherLeft)
    (sameRecords : left.store.records = memory.store.records)
    (sameDrawn : left.drawn = reached.drawn)
    (entered : execution.applied ≠ [] → (left.store.findIntent id).isSome = true)
    (nanFree : faults ∨ ∀ policy ∈ policies, policy.IsNaNFree) :
    Follows faults (Tracks deployment.identifiers)
      (fun view other _ => view.IsLike other ∧ (now.cut = now → other.cut = other))
      ((do
          let records ← deployment.service.settle execution
          deployment.service.report id (.intentCreated records.length)
          return (⟨intent, records⟩ : IntentView) :
        Action (MemoryWorld Client) ServiceError IntentView).run left)
      ((do
          let records ← deployment.databaseService.settle other
          deployment.databaseService.report id (.intentCreated records.length)
          return (⟨otherIntent, records⟩ : IntentView) :
        Action (DatabaseWorld Client) ServiceError IntentView).run otherLeft) := by
  have fits : ∀ change ∈ execution.applied,
      change.Fits deployment.identifiers id policies left.store left.drawn := by
    intro change applied
    rw [sameDrawn]
    exact (enforced.fits change applied).of_records sameRecords
  refine .bind (tracks.settle enforced.like fits entered nanFree) ?_
  rintro _ _ _ settled ⟨-, rfl, rfl, rfl⟩ tracks
  exact .answered (enforced.view same whole) (tracks.withEvents _ _)

/-- Creating an intent over a database follows creating it in memory. -/
theorem create
    (tracks : Tracks deployment.identifiers memory world)
    (fresh : Function.Injective deployment.identifiers)
    (isTime : now.IsTime)
    (canRead : faults ∨ memory.store.IsWritable)
    (nanFree : faults ∨ deployment.baselines.IsNaNFree)
    (owner text : String) :
    Follows faults (Tracks deployment.identifiers)
      (fun view other _ => view.IsLike other ∧ (now.cut = now → other.cut = other))
      ((deployment.service.create owner text now.cut).run memory)
      ((deployment.databaseService.create owner text now).run world) := by
  rw [Service.create, Service.create, Deployment.service_reconciler,
    Deployment.databaseService_reconciler]
  cases blank : (trimmed owner).isEmpty with
  | true => exact .failed tracks
  | false =>
      rw [if_neg Bool.false_ne_true, if_neg Bool.false_ne_true]
      refine .bind (tracks.translate (canRead.imp_right (·.rates)) text) ?_
      rintro ⟨sentence, policies⟩ _ _ reached ⟨translated, rfl, rfl⟩ tracks
      let id := deployment.identifiers memory.drawn
      let entered : IntentRecord := ⟨id, trimmed owner, trimmed text, now.cut, now.cut⟩
      let otherEntered : IntentRecord := ⟨id, trimmed owner, trimmed text, now, now⟩
      have drawn :
          (liftM deployment.reconciler.newId :
              Action (MemoryWorld Client) ServiceError String).run memory =
            (.ok id, { memory with drawn := memory.drawn + 1 }) := rfl
      have sameId : deployment.identifiers reached.drawn = id := congrArg _ tracks.drawn
      have otherDrawn :
          (liftM deployment.databaseReconciler.newId :
              Action (DatabaseWorld Client) ServiceError String).run reached =
            (.ok id, { reached with drawn := reached.drawn + 1 }) := by
        rw [← sameId]
        rfl
      have unknown := tracks.sound.findIntent_next fresh
      dsimp only
      rw [Action.run_bind_ok _ drawn, Action.run_bind_ok _ otherDrawn]
      refine .bind (tracks.withDrawn.enforce_enroll fresh isTime) ?_
      intro execution other left otherLeft enforced tracks
      have saves : Follows faults (Tracks deployment.identifiers)
          (fun _ _ reached => { left with store := left.store.saveIntent entered } = reached)
          ((Service.persisted (deployment.service.repositories.saveIntent entered)).run left)
          ((Service.persisted (deployment.databaseService.repositories.saveIntent otherEntered)).run
            otherLeft) := by
        refine tracks.saveIntent rfl ⟨isTime.isWhole_cut, isTime.isWhole_cut⟩ ?_ ?_
        · exact ⟨memory.drawn, enforced.drawnLe, rfl⟩
        · exact Deployment.readable_of_entry translated entered rfl
      have noNaN := Deployment.isNaNFree_of_translation nanFree translated
      have sameRecords : left.store.records = memory.store.records :=
        congrArg MemoryStore.records enforced.store
      have whole : now.cut = now → otherEntered.stored = otherEntered := by
        intro whole
        simp only [IntentRecord.stored, otherEntered, whole]
      -- The intent is stored first only if records that belong to it are going to be.
      have sameCondition : (other.interruption.isNone || !other.applied.isEmpty) =
          (execution.interruption.isNone || !execution.applied.isEmpty) := by
        rw [enforced.like.interruption, enforced.like.isEmpty_eq]
      rw [sameCondition]
      cases entering : execution.interruption.isNone || !execution.applied.isEmpty with
      | true =>
          rw [if_pos rfl, if_pos rfl]
          refine .bind saves ?_
          rintro _ _ _ otherReached rfl tracks
          have found : (left.store.saveIntent entered).findIntent id = some entered := by
            refine MemoryStore.findIntent_saveIntent fun held isHeld => ?_
            rw [enforced.store] at isHeld
            cases unknown.symm.trans isHeld
          exact settle_created enforced rfl whole tracks sameRecords rfl (fun _ => found ▸ rfl) noNaN
      | false =>
          have noChange : execution.applied = [] := by
            simp only [Bool.or_eq_false_iff, Bool.not_eq_false'] at entering
            exact List.isEmpty_iff.mp entering.2
          rw [if_neg Bool.false_ne_true, if_neg Bool.false_ne_true]
          exact settle_created enforced rfl whole tracks sameRecords rfl
            (fun someChange => (someChange noChange).elim) noNaN

/-- Records are read back in their order, as far as they can be read. -/
theorem listRecords
    (tracks : Tracks identifiers memory world)
    (canRead : faults ∨ ∀ record ∈ memory.store.recordsOf id, record.IsWritable) :
    Follows faults (Tracks identifiers)
      (fun records others left => memory.store.listRecords id = records ∧
        records.map PolicyRecord.stored = others ∧ memory = left ∧
        ∀ record ∈ memory.store.recordsOf id, record.IsWritable)
      ((Service.persisted (deployment.service.repositories.listRecords id)).run memory)
      ((Service.persisted (deployment.databaseService.repositories.listRecords id)).run world) := by
  have looked : (MemoryStore.repositories.listRecords id).run memory.store =
      (.ok (memory.store.listRecords id), memory.store) := rfl
  refine .adapt _ ((tracks.reads looked (tracks.holds.listRecords id) canRead).weaken ?_)
  rintro _ _ _ ⟨rfl, rfl, rfl, readable⟩
  exact ⟨rfl, rfl, rfl, readable⟩

/-- Updating an intent over a database follows updating it in memory. -/
theorem update
    (tracks : Tracks deployment.identifiers memory world)
    (fresh : Function.Injective deployment.identifiers)
    (isTime : now.IsTime)
    (canRead : faults ∨ memory.store.IsWritable)
    (nanFree : faults ∨ deployment.baselines.IsNaNFree)
    (id text : String) :
    Follows faults (Tracks deployment.identifiers)
      (fun view other _ => (view.IsLike other ∧ (now.cut = now → other.cut = other)) ∧
        ∀ record ∈ memory.store.recordsOf id, record.IsWritable)
      ((deployment.service.update id text now.cut).run memory)
      ((deployment.databaseService.update id text now).run world) := by
  rw [Service.update, Service.update, Deployment.service_reconciler,
    Deployment.databaseService_reconciler]
  refine .bind (tracks.find (canRead.imp_right (·.findIntent))) ?_
  rintro _ held _ reached ⟨found, rfl, rfl⟩ tracks
  refine .bind (tracks.translate (canRead.imp_right (·.rates)) text) ?_
  rintro ⟨sentence, policies⟩ _ _ reached ⟨translated, rfl, rfl⟩ tracks
  refine .bind (tracks.listRecords (canRead.imp_right (·.recordsOf))) ?_
  rintro _ _ _ reached ⟨rfl, rfl, rfl, canBeRead⟩ tracks
  refine .bind (tracks.enforce fresh isTime (fun _ => MemoryStore.mem_listRecords.mp) rfl) ?_
  intro execution other left otherLeft enforced stillTracks
  have fits : ∀ change ∈ execution.applied,
      change.Fits deployment.identifiers id policies left.store left.drawn :=
    fun change applied => (enforced.fits change applied).of_records (congrArg _ enforced.store)
  have entered : execution.applied ≠ [] → (left.store.findIntent id).isSome = true := by
    intro _
    rw [enforced.store, found]
    rfl
  have noNaN := Deployment.isNaNFree_of_translation nanFree translated
  refine .bind (stillTracks.settle enforced.like fits entered noNaN) ?_
  rintro _ _ _ settled ⟨-, rfl, rfl, rfl⟩ stillTracks
  have storable := tracks.storable_of_found found
  let updated : IntentRecord := { held with text := trimmed text, updatedAt := now.cut }
  let otherUpdated : IntentRecord := { held with text := trimmed text, updatedAt := now }
  have same : updated = otherUpdated.stored := by
    simp only [IntentRecord.stored, otherUpdated, storable.createdAt.cut, updated]
  have whole : now.cut = now → otherUpdated.stored = otherUpdated := by
    intro whole
    simp only [IntentRecord.stored, otherUpdated, storable.createdAt.cut, whole]
  have readable := Deployment.readable_of_entry translated updated rfl
  have isDrawn : IsDrawn deployment.identifiers left.drawn updated.id :=
    (tracks.sound.entered held (MemoryStore.stored_of_findIntent found).1).mono enforced.drawnLe
  refine .bind (stillTracks.saveIntent same ⟨storable.createdAt, isTime.isWhole_cut⟩ isDrawn
    readable) ?_
  rintro _ _ _ saved rfl stillTracks
  exact .answered ⟨enforced.view same whole, canBeRead⟩ (stillTracks.withEvents _ _)

/-- Deleting an intent over a database follows deleting it in memory. -/
theorem delete
    (tracks : Tracks deployment.identifiers memory world)
    (fresh : Function.Injective deployment.identifiers)
    (canRead : faults ∨ memory.store.IsWritable)
    (id : String) :
    Follows faults (Tracks deployment.identifiers) (fun count other _ => count = other)
      ((deployment.service.delete id).run memory)
      ((deployment.databaseService.delete id).run world) := by
  rw [Service.delete, Service.delete, Deployment.service_reconciler,
    Deployment.databaseService_reconciler]
  refine .bind (tracks.find (canRead.imp_right (·.findIntent))) ?_
  rintro _ held _ reached ⟨found, rfl, rfl⟩ tracks
  refine .bind (tracks.listRecords (canRead.imp_right (·.recordsOf))) ?_
  rintro _ _ _ reached ⟨rfl, rfl, rfl, -⟩ tracks
  refine .bind (tracks.enforce_retire fresh) ?_
  intro execution other left otherLeft enforced tracks
  have noNaN : faults ∨ ∀ policy ∈ ([] : List Policy), policy.IsNaNFree := by simp
  rw [← enforced.like.interruption]
  cases stopped : execution.interruption with
  | some interruption =>
      have fits : ∀ change ∈ execution.applied,
          change.Fits deployment.identifiers id [] left.store left.drawn :=
        fun change applied => (enforced.fits change applied).of_records (congrArg _ enforced.store)
      have entered : execution.applied ≠ [] → (left.store.findIntent id).isSome = true := by
        intro _
        rw [enforced.store, found]
        rfl
      rw [Option.isSome_some, if_pos rfl, if_pos rfl]
      refine .bind (tracks.settle enforced.like fits entered noNaN) ?_
      rintro _ _ _ settled ⟨finished, -⟩
      rw [stopped] at finished
      cases finished
  | none =>
      have withoutRecords : MemoryWorld.IsSound deployment.identifiers
          { left with store := left.store.deleteRecords id } :=
        tracks.sound.of_sublist (Nat.le_refl _) (.refl _) List.filter_sublist
      have withoutIntent : MemoryWorld.IsSound deployment.identifiers
          { left with store := (left.store.deleteRecords id).deleteIntent id } :=
        withoutRecords.of_sublist (Nat.le_refl _) List.filter_sublist (.refl _)
      have noRecords : (left.store.deleteRecords id).recordsOf id = [] := by
        simp [MemoryStore.recordsOf, MemoryStore.deleteRecords]
      rw [Option.isSome_none, if_neg Bool.false_ne_true, if_neg Bool.false_ne_true]
      refine .bind (.adapt _ (tracks.writes rfl (tracks.holds.deleteRecords id) withoutRecords)) ?_
      rintro _ _ _ reached ⟨-, -, rfl⟩ tracks
      refine .bind (.adapt _ (tracks.writes rfl (tracks.holds.deleteIntent noRecords)
        withoutIntent)) ?_
      rintro _ _ _ reached ⟨-, -, rfl⟩ tracks
      exact .answered enforced.like.applied.length_eq (tracks.withEvents _ _)

/-- Viewing an intent over a database gives back what is held. -/
theorem view
    (tracks : Tracks identifiers memory world)
    (canFind : faults ∨ ∀ intent ∈ memory.store.findIntent id, intent.IsWritable)
    (canRead : faults ∨ ∀ record ∈ memory.store.recordsOf id, record.IsWritable) :
    Follows faults (Tracks identifiers)
      (fun view other left => memory.store.findIntent id = some view.intent ∧
        memory.store.listRecords id = view.policies ∧ view.stored = other ∧ memory = left)
      ((deployment.service.view id).run memory)
      ((deployment.databaseService.view id).run world) := by
  rw [Service.view, Service.view]
  refine .bind (tracks.find canFind) ?_
  rintro _ held _ reached ⟨found, rfl, rfl⟩ tracks
  refine .bind (tracks.listRecords canRead) ?_
  rintro _ _ _ reached ⟨rfl, rfl, rfl, -⟩ stillTracks
  refine .answered ⟨found, rfl, ?_, rfl⟩ stillTracks
  rw [IntentView.stored, (tracks.storable_of_found found).stored_eq]

/-- An intent cannot be viewed once one of its records cannot be read back. -/
theorem view_of_not_writable
    {held : IntentRecord}
    (tracks : Tracks identifiers memory world)
    (found : memory.store.findIntent id = some held)
    (writable : held.IsWritable)
    (notWritable : ¬ ∀ record ∈ memory.store.recordsOf id, record.IsWritable) :
    ∃ error, ((deployment.databaseService.view id).run world).1 = .error error := by
  have canFind : False ∨ ∀ intent ∈ memory.store.findIntent id, intent.IsWritable := by
    simpa [found] using writable
  have finds : Follows False (Tracks identifiers) _ ((deployment.service.find id).run memory) _ :=
    tracks.find canFind
  rw [Service.view, Action.run_bind]
  generalize (deployment.databaseService.find id).run world = outcome at finds
  generalize (deployment.service.find id).run memory = memoryOutcome at finds
  cases finds with
  | @answered intent read left reached same stillTracks =>
      obtain ⟨-, rfl, rfl⟩ := same
      obtain ⟨error, unreadable⟩ := (stillTracks.holds.listRecords id).exists_error notWritable
      have failed :
          (Service.persisted (deployment.databaseService.repositories.listRecords id)).run reached =
            (.error (.persistence error.message), reached) := by
        have notListed : (deployment.databaseService.repositories.listRecords id).run reached =
            (.error error, reached) := DatabaseWorld.run_of_database unreadable
        rw [Service.persisted, Action.run_adapt, notListed]
        rfl
      refine ⟨.persistence error.message, ?_⟩
      dsimp only
      rw [Action.run_bind_error _ failed]
  | failed => exact ⟨_, rfl⟩
  | faulted impossible => exact impossible.elim

/-- Records that are listed on both sides compare equal. -/
theorem sameAs_listRecords
    (tracks : Tracks identifiers memory world)
    (id : String) :
    List.Forall₂ PolicyRecord.SameAs (memory.store.listRecords id)
      ((memory.store.listRecords id).map PolicyRecord.stored) := by
  rw [List.forall₂_map_right_iff, List.forall₂_same]
  intro record listed
  exact (tracks.storable (MemoryStore.mem_listRecords.mp listed).1).sameAs_stored

/-- Listing the intents of an owner over a database follows listing them in memory. -/
theorem list
    (tracks : Tracks identifiers memory world)
    (canRead : faults ∨ memory.store.IsWritable)
    (owner : String) :
    Follows faults (Tracks identifiers)
      (fun views others _ => List.Forall₂ IntentView.SameAs views others)
      ((deployment.service.list owner).run memory)
      ((deployment.databaseService.list owner).run world) := by
  have looked : (MemoryStore.repositories.listIntents (trimmed owner)).run memory.store =
      (.ok (memory.store.listIntents (trimmed owner)), memory.store) := rfl
  have canList : faults ∨ ∀ intent ∈ memory.store.intents.filter (·.owner == trimmed owner),
      intent.IsWritable :=
    canRead.imp_right fun writable intent owned =>
      writable.intents intent (List.mem_filter.mp owned).1
  rw [Service.list, Service.list]
  refine .bind (.adapt _ (tracks.reads looked (tracks.holds.listIntents _) canList)) ?_
  rintro _ _ _ reached ⟨rfl, rfl, rfl, -⟩ tracks
  have each : ∀ intent ∈ memory.store.listIntents (trimmed owner), ∀ left otherLeft,
      memory = left → Tracks identifiers left otherLeft →
      Follows faults (Tracks identifiers)
        (fun view other left => view.SameAs other ∧ memory = left)
        ((do return ⟨intent, ← Service.persisted
          (deployment.service.repositories.listRecords intent.id)⟩ :
            Action (MemoryWorld Client) ServiceError IntentView).run left)
        ((do return ⟨intent, ← Service.persisted
          (deployment.databaseService.repositories.listRecords intent.id)⟩ :
            Action (DatabaseWorld Client) ServiceError IntentView).run otherLeft) := by
    rintro intent listed _ otherLeft rfl tracks
    refine .bind (tracks.listRecords (canRead.imp_right (·.recordsOf))) ?_
    rintro _ _ _ reached ⟨rfl, rfl, rfl, -⟩ stillTracks
    exact .answered ⟨⟨rfl, tracks.sameAs_listRecords intent.id⟩, rfl⟩ stillTracks
  exact (Follows.mapM each rfl tracks).weaken fun _ _ _ same => same.1

/-- Saving a rate over a database follows saving it in memory. -/
theorem saveRate
    {rate : ConversionRate}
    (tracks : Tracks identifiers memory world)
    (isTime : rate.updatedAt.IsTime) :
    Follows faults (Tracks identifiers) (fun _ _ _ => True)
      ((Service.persisted (deployment.service.repositories.saveRate
        { rate with updatedAt := rate.updatedAt.cut })).run memory)
      ((Service.persisted (deployment.databaseService.repositories.saveRate rate)).run world) := by
  let cutRate : ConversionRate := { rate with updatedAt := rate.updatedAt.cut }
  have sameRow : Database.repositories.saveRate rate = Database.repositories.saveRate cutRate := by
    simp only [Database.repositories, cutRate, RateRow.ofRate_cut]
  have whole : cutRate.updatedAt.IsWhole := isTime.isWhole_cut
  have saves := tracks.holds.saveRate whole
  rw [← sameRow] at saves
  have changes : (MemoryStore.repositories.saveRate cutRate).run memory.store =
      (.ok (), memory.store.saveRate cutRate) := rfl
  have sound : MemoryWorld.IsSound identifiers
      { memory with store := memory.store.saveRate cutRate } :=
    tracks.sound.of_sublist (Nat.le_refl _) (.refl _) (.refl _)
  exact .adapt _ ((tracks.writes changes saves sound).weaken fun _ _ _ _ => trivial)

end Tracks

end IntentPolicy
