import IntentPolicy.Proofs.Service.Operations
import IntentPolicy.Proofs.Service.Shelf

namespace IntentPolicy

/-!
# The store mirrors enforcement

However the operations of a service end, the records that it has stored are those of the
policies that enforcement holds.
-/

namespace MemoryStore

variable {store : MemoryStore} {record : PolicyRecord} {id : String}

theorem mem_listRecords :
    record ∈ store.listRecords id ↔ record ∈ store.records ∧ record.intentId = id := by
  rw [listRecords, (oldestFirst_perm _).mem_iff, List.mem_filter, beq_iff_eq]

/-- Records with distinct identifiers are listed with distinct identifiers. -/
theorem distinctIds_listRecords
    (id : String)
    (distinctIds : (store.records.map (·.id)).Nodup) :
    ((store.listRecords id).map (·.id)).Nodup :=
  ((oldestFirst_perm _).map _).nodup_iff.mpr (distinctIds.sublist (List.filter_sublist.map _))

/-- What is left behind deleted records are those with other identifiers. -/
theorem records_of_deleted
    (gone : List PolicyRecord) :
    (store.withChanges (gone.map .deleted)).records =
      store.records.filter fun record => record.id ∉ gone.map (·.id) := by
  induction gone generalizing store with
  | nil => simp [withChanges]
  | cons first gone inductionHypothesis =>
      have goesOn : store.withChanges ((first :: gone).map .deleted) =
          (store.deleteRecord first.id).withChanges (gone.map .deleted) := rfl
      rw [goesOn, inductionHypothesis, deleteRecord, List.filter_filter]
      refine List.filter_congr fun record _ => ?_
      rw [Bool.eq_iff_iff]
      simp [and_comm]

/-- Deleting the listed records of an intent is deleting the records of the intent. -/
theorem records_of_retired
    (distinctIds : (store.records.map (·.id)).Nodup) :
    (store.withChanges ((oldestFirst (store.listRecords id)).map .deleted)).records =
      (store.deleteRecords id).records := by
  rw [records_of_deleted, deleteRecords]
  refine List.filter_congr fun record member => ?_
  have listed : record.id ∈ (oldestFirst (store.listRecords id)).map (·.id) ↔
      record.intentId = id := by
    rw [((oldestFirst_perm _).map _).mem_iff, List.mem_map]
    constructor
    · rintro ⟨other, otherListed, sameId⟩
      obtain ⟨otherMember, otherIntent⟩ := mem_listRecords.mp otherListed
      rwa [← List.inj_on_of_nodup_map distinctIds otherMember member sameId]
    · intro sameIntent
      exact ⟨record, mem_listRecords.mpr ⟨member, sameIntent⟩, rfl⟩
  simp only [listed, bne, beq_eq_decide, decide_not]

end MemoryStore

variable {Client : Type} {deployment : Deployment Client} {held : Client → String → Option Policy}
  {before after : MemoryWorld Client}

/-- What a service has stored mirrors what enforcement holds, and can be told apart. -/
def Deployment.Keeps (deployment : Deployment Client) (held : Client → String → Option Policy)
    (world : MemoryWorld Client) : Prop :=
  Kept deployment.identifiers (held world.client) world.drawn world.store.records

namespace Deployment

/-- Whatever else is stored, the changes that were applied keep policies and records together. -/
theorem keeps_of_stored
    {reached : MemoryWorld Client}
    {base store : MemoryStore}
    {changes : List AppliedStep}
    (kept : Kept deployment.identifiers (held reached.client) reached.drawn
      (base.withChanges changes).records)
    (sameRecords : store.records = base.records)
    (intentId : String)
    (details : List AuditDetail) :
    deployment.Keeps held
      (deployment.reporting { reached with store := store.withChanges changes } intentId details) := by
  rw [← MemoryStore.records_withChanges sameRecords] at kept
  exact kept

/-- Creating an intent keeps policies and records together. -/
theorem CreateRun.keeps
    {owner text : String}
    {now : Instant}
    {answer : Except ServiceError IntentView}
    (run : deployment.CreateRun owner text now before answer after)
    (stores : deployment.enforcement.StoresPolicies held)
    (fresh : Function.Injective deployment.identifiers)
    (keeps : deployment.Keeps held before) :
    deployment.Keeps held after := by
  have drawn : deployment.Keeps held { before with drawn := before.drawn + 1 } := Kept.draw keeps
  cases run with
  | refused => exact keeps
  | interrupted _ _ _ ran =>
      obtain ⟨storeEq, kept⟩ := kept_of_reconcile drawn stores fresh (by simp) (by simp) ran
      refine keeps_of_stored kept ?_ _ _
      rw [storeEq]
      split <;> rfl
  | completed _ _ _ ran =>
      obtain ⟨storeEq, kept⟩ := kept_of_reconcile drawn stores fresh (by simp) (by simp) ran
      refine keeps_of_stored kept ?_ _ _
      rw [storeEq]
      rfl

theorem UpdateRun.keeps
    {id text : String}
    {now : Instant}
    {answer : Except ServiceError IntentView}
    (run : deployment.UpdateRun id text now before answer after)
    (stores : deployment.enforcement.StoresPolicies held)
    (fresh : Function.Injective deployment.identifiers)
    (keeps : deployment.Keeps held before) :
    deployment.Keeps held after := by
  have stored : ∀ record ∈ before.store.listRecords id, record ∈ before.store.records :=
    fun _ member => (MemoryStore.mem_listRecords.mp member).1
  have distinct := MemoryStore.distinctIds_listRecords id keeps.distinctIds
  cases run with
  | refused => exact keeps
  | interrupted _ _ ran =>
      obtain ⟨storeEq, kept⟩ := kept_of_reconcile keeps stores fresh stored distinct ran
      exact keeps_of_stored kept (congrArg _ storeEq) _ _
  | completed _ _ ran =>
      obtain ⟨storeEq, kept⟩ := kept_of_reconcile keeps stores fresh stored distinct ran
      rw [← storeEq] at kept
      exact kept

theorem DeleteRun.keeps
    {id : String}
    {answer : Except ServiceError Nat}
    (run : deployment.DeleteRun id before answer after)
    (stores : deployment.enforcement.StoresPolicies held)
    (fresh : Function.Injective deployment.identifiers)
    (keeps : deployment.Keeps held before) :
    deployment.Keeps held after := by
  have stored : ∀ record ∈ before.store.listRecords id, record ∈ before.store.records :=
    fun _ member => (MemoryStore.mem_listRecords.mp member).1
  have distinct := MemoryStore.distinctIds_listRecords id keeps.distinctIds
  cases run with
  | refused => exact keeps
  | interrupted _ ran =>
      rw [Reconciler.retire_eq_reconcile] at ran
      obtain ⟨storeEq, kept⟩ := kept_of_reconcile keeps stores fresh stored distinct ran
      exact keeps_of_stored kept (congrArg _ storeEq) _ _
  | @completed _ execution reached _ ran finished =>
      -- Nothing is left out of a finished withdrawal, so its changes need not be stored singly.
      have planRun := Reconciler.planRun_of_retire ran
      have applied := (planRun.carried_of_finished finished).applied_of_deletes
      rw [Reconciler.retire_eq_reconcile] at ran
      obtain ⟨storeEq, kept⟩ := kept_of_reconcile keeps stores fresh stored distinct ran
      rw [applied, List.nil_append, MemoryStore.records_of_retired keeps.distinctIds,
        ← storeEq] at kept
      exact kept

/-- Every call keeps policies and records together, however it ends. -/
theorem Keeps.serve
    (keeps : deployment.Keeps held before)
    (stores : deployment.enforcement.StoresPolicies held)
    (fresh : Function.Injective deployment.identifiers)
    (call : ServiceCall) :
    deployment.Keeps held (deployment.serve before call) := by
  cases call with
  | create owner text now =>
      exact (deployment.createRun owner text now before).keeps stores fresh keeps
  | update id text now =>
      exact (deployment.updateRun id text now before).keeps stores fresh keeps
  | delete id => exact (deployment.deleteRun id before).keeps stores fresh keeps
  | saveRate rate => exact keeps

/-- Calls one after the other keep policies and records together. -/
theorem Keeps.serveAll
    (keeps : deployment.Keeps held before)
    (stores : deployment.enforcement.StoresPolicies held)
    (fresh : Function.Injective deployment.identifiers)
    (calls : List ServiceCall) :
    deployment.Keeps held (deployment.serveAll calls before) := by
  induction calls generalizing before with
  | nil => exact keeps
  | cons call calls inductionHypothesis =>
      exact inductionHypothesis (keeps.serve stores fresh call)

/-- Without records and policies nothing is out of step. -/
theorem Keeps.start
    {start : MemoryWorld Client}
    (noRecords : start.store.records = [])
    (nothingHeld : ∀ externalId, held start.client externalId = none) :
    deployment.Keeps held start := by
  rw [Keeps, noRecords]
  exact ⟨⟨by simp [nothingHeld], .nil⟩, by simp, .nil, by simp⟩

end Deployment

/--
The store keeps matching enforcement.  Behind every sequence of operations that starts
without records, whichever calls fail and however the operations end, the policies that are
held are exactly those of the stored records under their external identifiers.
-/
theorem enforcement_mirrors_store
    {Client : Type}
    (deployment : Deployment Client)
    (held : Client → String → Option Policy)
    (stores : deployment.enforcement.StoresPolicies held)
    (fresh : Function.Injective deployment.identifiers)
    (start : MemoryWorld Client)
    (noRecords : start.store.records = [])
    (nothingHeld : ∀ externalId, held start.client externalId = none)
    (calls : List ServiceCall) :
    Mirrors (held (deployment.serveAll calls start).client)
      (deployment.serveAll calls start).store.records := by
  have keeps : deployment.Keeps held start := .start noRecords nothingHeld
  exact (keeps.serveAll stores fresh calls).mirrors

/-- An intent is created in part, taken up again, and withdrawn in part. -/
theorem enforcement_mirrors_store_on_shelf :
    let deployment := Shelf.deployment fun call => call == 1 || call == 5
    let start : MemoryWorld Shelf := ⟨{}, {}, 0, []⟩
    let calls : List ServiceCall :=
      [.create "ann" "for ann, bob select bitcoin as default" ⟨1, 0⟩,
        .update "r" "for ann, bob select ethereum as default" ⟨2, 0⟩,
        .delete "r"]
    Mirrors (deployment.serveAll calls start).client.held
      (deployment.serveAll calls start).store.records := by
  intro deployment start calls
  exact enforcement_mirrors_store deployment Shelf.held (Shelf.storesPolicies _)
    (Shelf.identifiers_injective _) start rfl (fun _ => rfl) calls

end IntentPolicy
