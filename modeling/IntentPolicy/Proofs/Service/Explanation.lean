import IntentPolicy.Proofs.Service.Viewing

namespace IntentPolicy

/-!
# The stored text explains the stored policies

The records of an intent hold the translation of its stored text, from the operation that
stored the text until the next one that is asked to replace it.  Only deleting the intent takes
records away: a delete that fails has withdrawn some of them and keeps the text.
-/

/-- A call of a service, and the baselines of the service that is called. -/
structure ServiceRequest where
  baselines : Baselines
  call : ServiceCall

/-- The records of an intent that a call takes out of the store when it is to delete the intent. -/
def ServiceCall.withdraws (id : String) (before after : MemoryStore) :
    ServiceCall → List PolicyRecord
  | .delete other =>
      if other = id then (before.recordsOf id).filter (· ∉ after.records) else []
  | _ => []

namespace Deployment

variable {Client : Type}

/-- The service under other baselines, with the same enforcement and identifiers. -/
def under (deployment : Deployment Client) (baselines : Baselines) : Deployment Client :=
  { deployment with baselines }

/-- The world behind a request. -/
def grant (deployment : Deployment Client) (world : MemoryWorld Client)
    (request : ServiceRequest) : MemoryWorld Client :=
  (deployment.under request.baselines).serve world request.call

/-- The world behind requests that are made one after the other. -/
def grantAll (deployment : Deployment Client) (requests : List ServiceRequest)
    (world : MemoryWorld Client) : MemoryWorld Client :=
  requests.foldl deployment.grant world

/-- What is answered when an intent is to be created or updated. -/
def answer? (deployment : Deployment Client) (world : MemoryWorld Client) :
    ServiceCall → Option (Except ServiceError IntentView)
  | .create owner text now => some ((deployment.service.create owner text now).run world).1
  | .update id text now => some ((deployment.service.update id text now).run world).1
  | .delete _ => none
  | .saveRate _ => none

/-- The records of an intent that requests to delete it take out of the store. -/
def withdrawn (deployment : Deployment Client) (id : String) :
    List ServiceRequest → MemoryWorld Client → List PolicyRecord
  | [], _ => []
  | request :: behind, world =>
      let after := deployment.grant world request
      request.call.withdraws id world.store after.store ++ deployment.withdrawn id behind after

/-- The records hold what a text is translated to at the stored rates, in some order. -/
def Explains (deployment : Deployment Client) (store : MemoryStore) (text : String)
    (records : List PolicyRecord) : Prop :=
  ∃ sentence policies ordered, deployment.translation store text = .ok (sentence, policies) ∧
    ordered.Perm records ∧ Hold ordered policies

end Deployment

/--
One store follows another as far as an intent is concerned: the intent is as it was if it is
still there, and of its records some have been withdrawn.
-/
structure MemoryStore.Follows (id : String) (before after : MemoryStore)
    (withdrawn : List PolicyRecord) : Prop where
  sameIntent : ∀ held, after.findIntent id = some held → before.findIntent id = some held
  accounted : (before.recordsOf id).Perm (after.recordsOf id ++ withdrawn)

namespace MemoryStore

variable {id : String} {before middle after : MemoryStore} {first second : List PolicyRecord}

theorem Follows.of_same
    (sameIntent : after.findIntent id = before.findIntent id)
    (sameRecords : after.recordsOf id = before.recordsOf id) :
    Follows id before after [] where
  sameIntent held found := sameIntent.symm.trans found
  accounted := by rw [sameRecords, List.append_nil]

/-- What is withdrawn in two stages adds up. -/
theorem Follows.trans
    (early : Follows id before middle first)
    (late : Follows id middle after second) :
    Follows id before after (first ++ second) where
  sameIntent held found := early.sameIntent held (late.sameIntent held found)
  accounted :=
    calc
      List.Perm (before.recordsOf id) (middle.recordsOf id ++ first) := early.accounted
      List.Perm _ (after.recordsOf id ++ second ++ first) := late.accounted.append_right first
      List.Perm _ (after.recordsOf id ++ (first ++ second)) := by
        rw [List.append_assoc]
        exact List.perm_append_comm.append_left _

/-- Of records that were only taken away, those that are left and those that are gone are all. -/
theorem accounted_of_filter
    {kept : PolicyRecord → Bool}
    (filtered : after.records = before.records.filter kept) :
    (before.recordsOf id).Perm
      (after.recordsOf id ++ (before.recordsOf id).filter (· ∉ after.records)) := by
  have left : after.recordsOf id = (before.recordsOf id).filter (· ∈ after.records) := by
    rw [recordsOf, filtered, List.filter_comm, ← recordsOf]
    refine List.filter_congr fun record member => ?_
    simp [(mem_recordsOf.mp member).1]
  rw [left]
  simpa using (List.filter_append_perm (· ∈ after.records) (before.recordsOf id)).symm

end MemoryStore

/-- Withdrawing records applies their deletion one by one, however far it gets. -/
theorem Reconciler.PlanRun.applied_of_deletes
    {State : Type}
    {reconciler : Reconciler State}
    {intentId : String}
    {now : Instant}
    {records : List PolicyRecord}
    {execution final : Execution}
    {before after : State}
    (run : reconciler.PlanRun intentId now (records.map .delete) execution before final after) :
    ∃ gone : List PolicyRecord, final.applied = execution.applied ++ gone.map .deleted := by
  induction records generalizing execution before with
  | nil =>
      cases run
      exact ⟨[], (List.append_nil _).symm⟩
  | cons record records inductionHypothesis =>
      cases run with
      | stepped run behind =>
          obtain ⟨gone, appliedEq⟩ := inductionHypothesis behind
          cases run.yields with
          | deleted => exact ⟨record :: gone, by simp [appliedEq, Execution.note]⟩
      | stopped => exact ⟨[], (List.append_nil _).symm⟩

variable {Client : Type} {deployment : Deployment Client}
  {start before reached after : MemoryWorld Client} {id intentId : String} {now : Instant}
  {policies : List Policy} {sentence : Intent} {execution : Execution}

theorem Changed.follows
    {identifiers : Nat → String}
    {records : List PolicyRecord}
    (changed : Changed identifiers intentId start after records)
    (apart : id ≠ intentId) :
    MemoryStore.Follows id start.store after.store [] :=
  .of_same (changed.intents.findIntent_of_ne apart) (changed.tally.others id apart)

namespace Deployment

/-- Deleting an intent takes its records away, all of them or those in front of a failure. -/
theorem DeleteRun.follows
    {answer : Except ServiceError Nat}
    (run : deployment.DeleteRun id before answer after)
    (fresh : Function.Injective deployment.identifiers)
    (sound : before.IsSound deployment.identifiers) :
    MemoryStore.Follows id before.store after.store
      ((before.store.recordsOf id).filter (· ∉ after.store.records)) := by
  cases run with
  | refused =>
      have allKept : before.store.records = before.store.records.filter fun _ => true := by simp
      exact ⟨fun _ found => found, MemoryStore.accounted_of_filter allKept⟩
  | @interrupted _ execution _ reached _ ran =>
      obtain ⟨gone, applied⟩ := (Reconciler.planRun_of_retire ran).applied_of_deletes
      obtain ⟨_, ⟨storeEq, -, -⟩, -⟩ := sound.tallying_of_retired fresh ran
      have filtered : (reached.store.withChanges execution.applied).records =
          before.store.records.filter fun record => record.id ∉ gone.map (·.id) := by
        rw [applied, List.nil_append, MemoryStore.records_of_deleted, storeEq]
      refine ⟨fun held found => ?_, MemoryStore.accounted_of_filter filtered⟩
      rw [← storeEq, ← MemoryStore.findIntent_withChanges execution.applied]
      exact found
  | @completed _ execution reached _ ran =>
      obtain ⟨_, ⟨storeEq, -, -⟩, -⟩ := sound.tallying_of_retired fresh ran
      have filtered : (reached.store.deleteRecords id).records =
          before.store.records.filter (·.intentId != id) := by
        rw [storeEq]
        rfl
      -- Nothing is claimed of an intent that is no longer there.
      refine ⟨fun held found => ?_, MemoryStore.accounted_of_filter filtered⟩
      have gone := (MemoryStore.findIntent_deleteIntent id).symm.trans found
      cases gone

/-- Unless an intent is updated, a call keeps it and its records, up to what it withdraws. -/
theorem follows_serve
    (deployment : Deployment Client)
    {call : ServiceCall}
    (fresh : Function.Injective deployment.identifiers)
    (sound : before.IsSound deployment.identifiers)
    (isDrawn : IsDrawn deployment.identifiers before.drawn id)
    (notUpdated : ∀ text now, call ≠ .update id text now) :
    MemoryStore.Follows id before.store (deployment.serve before call).store
      (call.withdraws id before.store (deployment.serve before call).store) := by
  have run := deployment.serveRun fresh sound call
  -- A call that is not about the intent takes none of its records, so none need be looked for.
  have otherwise (notSubject : call.subject? (deployment.identifiers before.drawn) ≠ some id) :
      MemoryStore.Follows id before.store (deployment.serve before call).store [] := by
    cases run with
    | untouched _ intents records => exact .of_same (congrArg _ intents) (congrArg _ records)
    | changed subject changed =>
        exact changed.follows fun same => notSubject (same ▸ subject)
  cases call with
  | create owner text now =>
      exact otherwise fun same => isDrawn.ne_next fresh (Option.some.inj same).symm
  | update other text now =>
      exact otherwise fun same => notUpdated text now (Option.some.inj same ▸ rfl)
  | delete other =>
      rw [ServiceCall.withdraws]
      by_cases same : other = id
      · subst same
        rw [if_pos rfl]
        exact (deployment.deleteRun other before).follows fresh sound
      · rw [if_neg same]
        exact otherwise fun same' => same (Option.some.inj same')
  | saveRate rate => exact otherwise nofun

/-- What is left at the end of a plan holds the translation of the text that is stored. -/
theorem explains_of_finished
    {store : MemoryStore}
    {text : String}
    {old records : List PolicyRecord}
    (nanFree : deployment.baselines.IsNaNFree)
    (translated : deployment.translation store text = .ok (sentence, policies))
    (ran : deployment.reconciler.reconcile intentId old policies now start = (execution, reached))
    (finished : execution.interruption = none)
    (counted : records.Perm execution.records) :
    deployment.Explains store (trimmed text) records := by
  have run := Reconciler.planRun_of_reconcile ran
  have policiesNaNFree : ∀ policy ∈ policies, policy.IsNaNFree :=
    Translator.translate_isNaNFree nanFree (Translator.parsed_of_refine translated).2
  have holds : Hold execution.records policies :=
    (run.carried_of_finished finished).hold policiesNaNFree (planReconciliation_eq _ _).symm
  refine ⟨sentence, policies, execution.records, ?_, counted.symm, holds⟩
  rw [translation, Translator.refine_trimmed]
  exact translated

/-- A new intent is stored with the policies that its text explains. -/
theorem CreateRun.explains
    {owner text : String}
    {view : IntentView}
    (run : deployment.CreateRun owner text now before (.ok view) after)
    (fresh : Function.Injective deployment.identifiers)
    (sound : before.IsSound deployment.identifiers)
    (nanFree : deployment.baselines.IsNaNFree) :
    after.store.findIntent view.intent.id = some view.intent ∧
      deployment.Explains before.store view.intent.text
        (after.store.recordsOf view.intent.id) := by
  have contains := run.contains fresh sound
  refine ⟨contains.intent, ?_⟩
  cases run with
  | completed _ entry translated ran finished =>
      subst entry
      exact explains_of_finished nanFree translated ran finished contains.records

theorem UpdateRun.explains
    {text : String}
    {view : IntentView}
    (run : deployment.UpdateRun id text now before (.ok view) after)
    (fresh : Function.Injective deployment.identifiers)
    (sound : before.IsSound deployment.identifiers)
    (nanFree : deployment.baselines.IsNaNFree) :
    after.store.findIntent view.intent.id = some view.intent ∧
      deployment.Explains before.store view.intent.text
        (after.store.recordsOf view.intent.id) := by
  have contains := run.contains fresh sound
  refine ⟨contains.intent, ?_⟩
  cases run with
  | completed _ translated ran finished =>
      exact explains_of_finished nanFree translated ran finished contains.records

/-- What was answered to a call is stored with the policies that its text explains. -/
theorem explains_of_answer
    (deployment : Deployment Client)
    {call : ServiceCall}
    {view : IntentView}
    (fresh : Function.Injective deployment.identifiers)
    (sound : before.IsSound deployment.identifiers)
    (nanFree : deployment.baselines.IsNaNFree)
    (answered : deployment.answer? before call = some (.ok view)) :
    (deployment.serve before call).store.findIntent view.intent.id = some view.intent ∧
      deployment.Explains before.store view.intent.text
        ((deployment.serve before call).store.recordsOf view.intent.id) := by
  cases call with
  | create owner text now =>
      have run := deployment.createRun owner text now before
      rw [Option.some.inj answered] at run
      rw [serve]
      generalize ((deployment.service.create owner text now).run before).2 = after at run ⊢
      exact run.explains fresh sound nanFree
  | update id text now =>
      have run := deployment.updateRun id text now before
      rw [Option.some.inj answered] at run
      rw [serve]
      generalize ((deployment.service.update id text now).run before).2 = after at run ⊢
      exact run.explains fresh sound nanFree
  | delete id => cases answered
  | saveRate rate => cases answered

/-- An update that fails keeps all intents as they were. -/
theorem intents_of_failed_update
    (deployment : Deployment Client)
    {text : String}
    {error : ServiceError}
    (fresh : Function.Injective deployment.identifiers)
    (sound : before.IsSound deployment.identifiers)
    (answered : deployment.answer? before (.update id text now) = some (.error error)) :
    (deployment.serve before (.update id text now)).store.intents = before.store.intents := by
  have run := deployment.updateRun id text now before
  rw [Option.some.inj answered] at run
  rw [serve]
  generalize ((deployment.service.update id text now).run before).2 = after at run ⊢
  cases run with
  | refused => rfl
  | @interrupted _ _ _ execution _ reached _ _ ran =>
      obtain ⟨_, ⟨storeEq, -, -⟩, -⟩ := sound.tallying_of_listed fresh ran
      rw [← storeEq]
      exact MemoryStore.intents_withChanges execution.applied

section Requests

variable {requests : List ServiceRequest}

theorem grantRun
    (deployment : Deployment Client)
    (fresh : Function.Injective deployment.identifiers)
    (sound : before.IsSound deployment.identifiers)
    (request : ServiceRequest) :
    ServeRun deployment.identifiers request.call before (deployment.grant before request) :=
  (deployment.under request.baselines).serveRun fresh sound request.call

/-- Whatever is asked under whatever baselines, what is stored is sound. -/
theorem isSound_grantAll
    (fresh : Function.Injective deployment.identifiers)
    (sound : before.IsSound deployment.identifiers)
    (requests : List ServiceRequest) :
    (deployment.grantAll requests before).IsSound deployment.identifiers := by
  induction requests generalizing before with
  | nil => exact sound
  | cons request requests inductionHypothesis =>
      exact inductionHypothesis ((deployment.grantRun fresh sound request).isSound sound)

/-- As long as an intent is not updated, it keeps its records up to those that are withdrawn. -/
theorem follows_grantAll
    (fresh : Function.Injective deployment.identifiers)
    (sound : before.IsSound deployment.identifiers)
    (isDrawn : IsDrawn deployment.identifiers before.drawn id)
    (notUpdated : ∀ request ∈ requests, ∀ text now, request.call ≠ .update id text now) :
    MemoryStore.Follows id before.store (deployment.grantAll requests before).store
      (deployment.withdrawn id requests before) := by
  -- On the requests from the front: what each of them withdraws adds up.
  induction requests generalizing before with
  | nil => exact .of_same rfl rfl
  | cons request requests inductionHypothesis =>
      obtain ⟨notHere, notBehind⟩ := List.forall_mem_cons.mp notUpdated
      have run := deployment.grantRun fresh sound request
      have followsHere :=
        (deployment.under request.baselines).follows_serve fresh sound isDrawn notHere
      exact followsHere.trans
        (inductionHypothesis (run.isSound sound) (isDrawn.mono run.drawnLe) notBehind)

end Requests

end Deployment

/--
The stored text explains the stored policies.  Whatever is asked of a service and whichever
calls fail, every stored text is a sentence.  Once an intent was created or updated, and as long
as it is not to be updated again, its records hold the translation of its stored text at the
rates and baselines of that time, if those are counted that failed deletes have withdrawn; and
an update that fails leaves the intents as they were.
-/
theorem stored_text_explains_policies
    {Client : Type}
    (deployment : Deployment Client)
    (fresh : Function.Injective deployment.identifiers)
    (start : MemoryWorld Client)
    (noIntents : start.store.intents = [])
    (noRecords : start.store.records = [])
    (requests : List ServiceRequest)
    (nanFree : ∀ request ∈ requests, request.baselines.IsNaNFree) :
    let final := deployment.grantAll requests start
    (∀ intent ∈ final.store.intents, ∃ sentence, parseSentence intent.text = .ok sentence) ∧
      ∀ earlier request later, requests = earlier ++ request :: later →
        let before := deployment.grantAll earlier start
        let after := deployment.grant before request
        let answer := (deployment.under request.baselines).answer? before request.call
        (∀ view held, answer = some (.ok view) →
          (∀ other ∈ later, ∀ text now, other.call ≠ .update view.intent.id text now) →
          final.store.findIntent view.intent.id = some held →
          (deployment.under request.baselines).Explains before.store held.text
            (final.store.recordsOf view.intent.id ++
              deployment.withdrawn view.intent.id later after)) ∧
        (∀ id text now error, request.call = .update id text now → answer = some (.error error) →
          after.store.intents = before.store.intents) := by
  intro final
  have startSound : start.IsSound deployment.identifiers := .of_empty noIntents noRecords
  have finalSound := Deployment.isSound_grantAll fresh startSound requests
  refine ⟨finalSound.readable, ?_⟩
  rintro earlier request later rfl before after answer
  have beforeSound := Deployment.isSound_grantAll fresh startSound earlier
  constructor
  · intro view held answered notUpdated found
    have requestNaNFree := nanFree request (by simp)
    obtain ⟨stored, sentence, policies, ordered, translated, same, holds⟩ :=
      (deployment.under request.baselines).explains_of_answer fresh beforeSound requestNaNFree
        answered
    have afterSound := (deployment.grantRun fresh beforeSound request).isSound beforeSound
    have isDrawn := afterSound.isDrawn_of_found stored
    have follows := Deployment.follows_grantAll fresh afterSound isDrawn notUpdated
    have finalEq : final = deployment.grantAll later after := List.foldl_append
    rw [finalEq] at found ⊢
    have sameIntent : view.intent = held :=
      Option.some.inj (stored.symm.trans (follows.sameIntent held found))
    rw [← sameIntent]
    exact ⟨sentence, policies, ordered, translated, same.trans follows.accounted, holds⟩
  · intro id text now error isUpdate failed
    simp only [answer, isUpdate] at failed
    simp only [after, Deployment.grant, isUpdate]
    exact (deployment.under request.baselines).intents_of_failed_update fresh beforeSound failed

/-- The text of a new intent explains its records, also behind a request that enforcement fails. -/
theorem stored_text_explains_policies_of_two_users :
    let deployment := Shelf.deployment fun call => call == 2
    let start : MemoryWorld Shelf := ⟨{}, {}, 0, []⟩
    let create : ServiceRequest :=
      ⟨{}, .create "ann" " for ann, bob select bitcoin as default" ⟨1, 0⟩⟩
    let other : ServiceRequest := ⟨{}, .create "cat" "for cat select iota as default" ⟨2, 0⟩⟩
    let entered : IntentRecord :=
      ⟨"r", "ann", "for ann, bob select bitcoin as default", ⟨1, 0⟩, ⟨1, 0⟩⟩
    (deployment.under {}).Explains start.store entered.text
      ((deployment.grantAll [create, other] start).store.recordsOf "r") := by
  intro deployment start create other entered
  let after := deployment.grant start create
  have nanFree : ∀ request ∈ [create, other], request.baselines.IsNaNFree := by
    simp only [List.forall_mem_cons]
    exact ⟨⟨by decide, by decide⟩, ⟨by decide, by decide⟩, by simp⟩
  have answered : (deployment.under {}).answer? start create.call =
      some (.ok ⟨entered, after.store.records⟩) := by decide +kernel
  have found : (deployment.grantAll [create, other] start).store.findIntent "r" =
      some entered := by decide +kernel
  have explained := stored_text_explains_policies deployment (Shelf.identifiers_injective _) start
    rfl rfl [create, other] nanFree
  have noneWithdrawn : deployment.withdrawn "r" [other] after = [] := rfl
  have records : (deployment.under {}).Explains start.store entered.text
      ((deployment.grantAll [create, other] start).store.recordsOf "r" ++
        deployment.withdrawn "r" [other] after) :=
    (explained.2 [] create [other] rfl).1 ⟨entered, after.store.records⟩ entered answered
      (by simp [other]) found
  rwa [noneWithdrawn, List.append_nil] at records

/-- Records that stand in order are withdrawn in it, as far as the calls go through. -/
theorem Deployment.store_of_stopped_delete
    {baselines : Baselines}
    {held : IntentRecord}
    {interruption : Interruption}
    {retiring : Execution × MemoryWorld Client}
    (found : before.store.findIntent id = some held)
    (ordered : (before.store.recordsOf id).Pairwise PolicyRecord.Precedes)
    (ran : retiring = deployment.reconciler.carryOut id ⟨0, 0⟩
      ((before.store.recordsOf id).map .delete) {} before)
    (stopped : retiring.1.interruption = some interruption) :
    (deployment.grant before ⟨baselines, .delete id⟩).store =
      retiring.2.store.withChanges retiring.1.applied := by
  have sameOrder := oldestFirst_eq_of_perm ordered (.refl _)
  have retired : deployment.reconciler.retire id (before.store.listRecords id) before =
      (retiring.1, retiring.2) := by
    rw [Reconciler.retire, planRetirement, MemoryStore.listRecords, ← MemoryStore.recordsOf,
      sameOrder, sameOrder, ← ran]
  have deleted := (deployment.under baselines).delete_run_of_stopped found retired stopped
  rw [grant, serve, deleted]
  rfl

/-- Behind a delete that has withdrawn one of two records, the text is that of two. -/
theorem stored_text_unexplained_behind_failed_delete :
    let deployment := Shelf.deployment fun call => call == 3
    let start : MemoryWorld Shelf := ⟨{}, {}, 0, []⟩
    let create : ServiceRequest :=
      ⟨{}, .create "ann" "for ann, bob select bitcoin as default" ⟨1, 0⟩⟩
    let entered : IntentRecord :=
      ⟨"r", "ann", "for ann, bob select bitcoin as default", ⟨1, 0⟩, ⟨1, 0⟩⟩
    let final := deployment.grant (deployment.grant start create) ⟨{}, .delete "r"⟩
    (∃ records, (deployment.under {}).answer? start create.call =
        some (.ok ⟨entered, records⟩)) ∧
      final.store.findIntent "r" = some entered ∧
      ¬ (deployment.under {}).Explains start.store entered.text
        (final.store.recordsOf "r") := by
  intro deployment start create entered final
  let after := deployment.grant start create
  have answered : (deployment.under {}).answer? start create.call =
      some (.ok ⟨entered, after.store.records⟩) := by decide +kernel
  have found : after.store.findIntent "r" = some entered := by decide +kernel
  have ordered : (after.store.recordsOf "r").Pairwise PolicyRecord.Precedes := by decide +kernel
  let retiring := deployment.reconciler.carryOut "r" ⟨0, 0⟩
    ((after.store.recordsOf "r").map .delete) {} after
  have stopped : retiring.1.interruption = some ⟨"bob", .rejected "refused"⟩ := by decide +kernel
  have finalStore : final.store = retiring.2.store.withChanges retiring.1.applied :=
    Deployment.store_of_stopped_delete found ordered rfl stopped
  have unchanged : (retiring.2.store.withChanges retiring.1.applied).findIntent "r" =
      some entered := by decide +kernel
  have oneLeft : ((retiring.2.store.withChanges retiring.1.applied).recordsOf "r").length = 1 := by
    decide +kernel
  rw [← finalStore] at unchanged oneLeft
  refine ⟨⟨_, answered⟩, unchanged, ?_⟩
  rintro ⟨sentence, policies, held, translated, same, holds⟩
  have two : ((deployment.under {}).translation start.store entered.text).map
      (fun translation => translation.2.length) = .ok 2 := by decide +kernel
  rw [translated] at two
  have twoPolicies : policies.length = 2 := Except.ok.inj two
  have sameNumber := same.length_eq.symm.trans holds.length_eq
  omega

end IntentPolicy
