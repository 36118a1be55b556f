import IntentPolicy.Proofs.Service.Registration

namespace IntentPolicy

/-!
# Intents are left alone by operations on others

The records of all intents are kept together, so that they can only be told apart by what they
are saved under.  An operation on one intent changes nothing that is stored for another one, and
names none of its policies to enforcement.
-/

section Sorting

variable {Entry : Type} {isOlder : Entry → Entry → Bool}

/-- In sorted order, those behind an entry are the ones that it is not younger than. -/
theorem filter_isOlder_of_sorted
    {entry : Entry}
    {front behind : List Entry}
    (sorted : (front ++ entry :: behind).Pairwise fun left right => isOlder left right = true)
    (younger : ∀ other ∈ front, (!isOlder entry other) = true) :
    (front ++ behind).filter (isOlder entry) = behind := by
  have older := (List.pairwise_cons.mp (List.pairwise_append.mp sorted).2.1).1
  rw [List.filter_append, List.filter_eq_nil_iff.mpr, List.filter_eq_self.mpr older]
  · rfl
  · simpa using younger

/-- Sorting keeps equals in order, so entries can be left out before it or behind it. -/
theorem filter_mergeSort
    (total : ∀ left right, (isOlder left right || isOlder right left) = true)
    (trans : ∀ left middle right, isOlder left middle = true → isOlder middle right = true →
      isOlder left right = true)
    (keeps : Entry → Bool)
    (entries : List Entry) :
    (entries.mergeSort isOlder).filter keeps = (entries.filter keeps).mergeSort isOlder := by
  have sorted (entries : List Entry) := List.pairwise_mergeSort trans total entries
  induction entries with
  | nil => simp
  | cons entry entries inductionHypothesis =>
      obtain ⟨front, behind, split, restSplit, younger⟩ :=
        List.mergeSort_cons trans total entry entries
      rw [restSplit, List.filter_append] at inductionHypothesis
      cases kept : keeps entry with
      | false =>
          have gone : ¬ keeps entry = true := by simp [kept]
          rw [split, List.filter_append, List.filter_cons_of_neg gone, inductionHypothesis,
            List.filter_cons_of_neg gone]
      | true =>
          -- Both times the entry is in front of the same ones, and so behind the same ones.
          obtain ⟨keptFront, keptBehind, keptSplit, keptRestSplit, keptYounger⟩ :=
            List.mergeSort_cons trans total entry (entries.filter keeps)
          have filtered : ((entry :: entries).mergeSort isOlder).filter keeps =
              front.filter keeps ++ entry :: behind.filter keeps := by
            rw [split, List.filter_append, List.filter_cons_of_pos kept]
          have filteredSorted := (sorted (entry :: entries)).filter keeps
          have keptSorted := sorted (entry :: entries.filter keeps)
          rw [filtered] at filteredSorted
          rw [keptSplit] at keptSorted
          have sameRest := inductionHypothesis.trans keptRestSplit
          have sameBehind : behind.filter keeps = keptBehind := by
            rw [← filter_isOlder_of_sorted keptSorted keptYounger, ← sameRest]
            refine (filter_isOlder_of_sorted filteredSorted fun other member => ?_).symm
            exact younger other (List.mem_filter.mp member).1
          have sameFront : front.filter keeps = keptFront :=
            List.append_cancel_right (sameBehind ▸ sameRest)
          rw [filtered, List.filter_cons_of_pos kept, keptSplit, sameFront, sameBehind]

end Sorting

namespace IntentRecord

theorem isOlder_total
    (left right : IntentRecord) :
    (left.isOlder right || right.isOlder left) = true :=
  isOlderKey_total (left.createdAt, left.id) (right.createdAt, right.id)

theorem isOlder_trans
    (left middle right : IntentRecord)
    (leftOlder : left.isOlder middle = true)
    (middleOlder : middle.isOlder right = true) :
    left.isOlder right = true :=
  isOlderKey_trans (left.createdAt, left.id) (middle.createdAt, middle.id)
    (right.createdAt, right.id) leftOlder middleOlder

end IntentRecord

/-- What is stored for other intents than one is what was stored before. -/
structure MemoryStore.SparesOthers (before after : MemoryStore) (id : String) : Prop where
  intents : after.intents.filter (·.id != id) = before.intents.filter (·.id != id)
  records : ∀ other, other ≠ id → after.recordsOf other = before.recordsOf other

namespace MemoryStore

variable {before after : MemoryStore} {id other : String}

theorem IntentsChange.filter_ne
    {intents : List IntentRecord}
    (change : IntentsChange id before intents) :
    intents.filter (·.id != id) = before.intents.filter (·.id != id) := by
  cases change with
  | unchanged => rfl
  | saved ofId =>
      subst ofId
      simp [saveIntent, List.filter_append, List.filter_filter]
  | deleted => simp [deleteIntent, List.filter_filter]

namespace SparesOthers

theorem findIntent
    (spares : before.SparesOthers after id)
    (apart : other ≠ id) :
    after.findIntent other = before.findIntent other := by
  have found (store : MemoryStore) :
      (store.intents.filter (·.id != id)).find? (·.id == other) = store.findIntent other := by
    rw [← findIntent_deleteIntent_of_ne apart]
    rfl
  rw [← found, spares.intents, found]

theorem listRecords
    (spares : before.SparesOthers after id)
    (apart : other ≠ id) :
    after.listRecords other = before.listRecords other :=
  congrArg oldestFirst (spares.records other apart)

/-- The intents of an owner are listed in the order in which they were, up to one of them. -/
theorem listIntents
    (spares : before.SparesOthers after id)
    (owner : String) :
    (after.listIntents owner).filter (·.id != id) =
      (before.listIntents owner).filter (·.id != id) := by
  have listed (store : MemoryStore) : (store.listIntents owner).filter (·.id != id) =
      ((store.intents.filter (·.id != id)).filter (·.owner == owner)).mergeSort
        IntentRecord.isOlder := by
    rw [MemoryStore.listIntents,
      filter_mergeSort IntentRecord.isOlder_total IntentRecord.isOlder_trans, List.filter_comm]
  rw [listed, spares.intents, listed]

end SparesOthers

/-- The intents of an owner with their records, oldest first. -/
def views (store : MemoryStore) (owner : String) : List IntentView :=
  (store.listIntents owner).map fun intent => ⟨intent, store.listRecords intent.id⟩

theorem SparesOthers.views
    (spares : before.SparesOthers after id)
    (owner : String) :
    (after.views owner).filter (·.intent.id != id) =
      (before.views owner).filter (·.intent.id != id) := by
  have listed := spares.listIntents owner
  rw [MemoryStore.views, MemoryStore.views, List.filter_map, List.filter_map]
  change ((after.listIntents owner).filter (·.id != id)).map _ =
    ((before.listIntents owner).filter (·.id != id)).map _
  rw [listed]
  refine List.map_congr_left fun intent member => ?_
  have apart : intent.id ≠ id := bne_iff_ne.mp (List.mem_filter.mp member).2
  rw [spares.listRecords apart]

end MemoryStore

/-- The identifier by which a call names a policy that enforcement knows already. -/
def EnforcementCall.externalId? : EnforcementCall → Option String
  | .create _ => none
  | .update externalId _ => some externalId
  | .delete externalId => some externalId

/-- A step names the policy of the record that it is about. -/
theorem PlanStep.record_of_call?
    {step : PlanStep}
    {call : EnforcementCall}
    {externalId : String}
    (asks : step.call? = some call)
    (named : call.externalId? = some externalId) :
    isAssigned externalId = true ∧
      ∃ record, step.record? = some record ∧ record.externalId = externalId := by
  cases step with
  | delete record =>
      rw [call?] at asks
      split at asks
      · next assigned =>
          obtain rfl := Option.some.inj asks
          obtain rfl := Option.some.inj named
          exact ⟨assigned, record, rfl, rfl⟩
      · cases asks
  | update record policy =>
      rw [call?] at asks
      split at asks
      · next assigned =>
          obtain rfl := Option.some.inj asks
          obtain rfl := Option.some.inj named
          exact ⟨assigned, record, rfl, rfl⟩
      · obtain rfl := Option.some.inj asks
        cases named
  | unchanged record => cases asks
  | create policy =>
      obtain rfl := Option.some.inj asks
      cases named

namespace Deployment

variable {Client : Type} {deployment : Deployment Client}

/-- Listing shows what is stored for an owner, and changes nothing. -/
theorem list_run
    (deployment : Deployment Client)
    (owner : String)
    (world : MemoryWorld Client) :
    (deployment.service.list owner).run world =
      (.ok (world.store.views (trimmed owner)), world) := by
  have looked : (Service.persisted
      (deployment.service.repositories.listIntents (trimmed owner))).run world =
      (.ok (world.store.listIntents (trimmed owner)), world) := rfl
  rw [Service.list, Action.run_bind_ok _ looked, MemoryStore.views]
  generalize world.store.listIntents (trimmed owner) = intents
  induction intents with
  | nil => rfl
  | cons intent intents inductionHypothesis =>
      have shown : (do return ⟨intent, ← Service.persisted
          (deployment.service.repositories.listRecords intent.id)⟩ :
            Action (MemoryWorld Client) ServiceError IntentView).run world =
          (.ok ⟨intent, world.store.listRecords intent.id⟩, world) := rfl
      rw [List.mapM_cons, Action.run_bind_ok _ shown, Action.run_bind_ok _ inductionHypothesis]
      rfl

/-- A client of which every call is put on record has them on its log. -/
theorem recorded_logs
    (deployment : Deployment Client) :
    deployment.recorded.reconciler.Logs (·.client.log) where
  create answered := by
    obtain ⟨client, clientAnswered, rfl⟩ := Action.of_run_within answered
    exact Action.log_of_recorded clientAnswered
  update answered := by
    obtain ⟨client, clientAnswered, rfl⟩ := Action.of_run_within answered
    exact Action.log_of_recorded clientAnswered
  delete answered := by
    obtain ⟨client, clientAnswered, rfl⟩ := Action.of_run_within answered
    exact Action.log_of_recorded clientAnswered
  newId _ := rfl

/-- An operation puts on the log what it asks for, and names no policies but those of its intent. -/
theorem Concludes.logged
    {before after : MemoryWorld Client}
    {id : String}
    {answer : Except ServiceError AuditDetail}
    (concludes : deployment.Concludes before id answer after)
    (log : Client → List (EnforcementCall × Bool))
    (logs : deployment.reconciler.Logs (log ·.client)) :
    ∃ made, log after.client = log before.client ++ made ∧
      ∀ entry ∈ made, ∀ externalId, entry.1.externalId? = some externalId →
        isAssigned externalId = true ∧ ∃ record ∈ before.store.records,
          record.intentId = id ∧ record.externalId = externalId := by
  rcases concludes.refused_or_ran with
    rfl | ⟨start, old, policies, now, execution, reached, begins, ran, sameClient, -⟩
  · exact ⟨[], (List.append_nil _).symm, by simp⟩
  · obtain ⟨made, logEq, ofSteps⟩ := (Reconciler.planRun_of_reconcile ran).logged logs
    rw [begins.frame.2.1, ← sameClient] at logEq
    refine ⟨made, logEq, fun entry member externalId named => ?_⟩
    obtain ⟨step, planned, asks⟩ := ofSteps entry member
    obtain ⟨assigned, record, about, rfl⟩ := PlanStep.record_of_call? asks named
    obtain ⟨stored, ofIntent⟩ := begins.stored record (mem_of_planReconciliation planned about)
    exact ⟨assigned, record, stored, ofIntent, rfl⟩

/-- Where records share no external identifier, no policy of another intent is named. -/
theorem Concludes.namesNoOthers
    {before after : MemoryWorld Client}
    {id : String}
    {answer : Except ServiceError AuditDetail}
    {inUse : String → Prop}
    (concludes : deployment.Concludes before id answer after)
    (log : Client → List (EnforcementCall × Bool))
    (logs : deployment.reconciler.Logs (log ·.client))
    (distinctIds : (before.store.records.map (·.id)).Nodup)
    (registered : Registered inUse before.store.records) :
    ∃ made, log after.client = log before.client ++ made ∧
      ∀ entry ∈ made, ∀ externalId, entry.1.externalId? = some externalId →
        ∀ record ∈ before.store.records, record.intentId ≠ id →
          record.externalId ≠ externalId := by
  obtain ⟨made, logEq, ofIntent⟩ := concludes.logged log logs
  refine ⟨made, logEq, fun entry member externalId named other otherStored otherIntent same => ?_⟩
  obtain ⟨assigned, record, stored, recordIntent, rfl⟩ := ofIntent entry member externalId named
  -- A record with the same external identifier is the same record, and so of the same intent.
  have sameId := registered.apart record stored other otherStored assigned same.symm
  obtain rfl := List.inj_on_of_nodup_map distinctIds stored otherStored sameId
  exact otherIntent recordIntent

/-- What is stored for other intents than that of a call is left alone. -/
theorem sparesOthers_serve
    (deployment : Deployment Client)
    {before : MemoryWorld Client}
    {id : String}
    (fresh : Function.Injective deployment.identifiers)
    (sound : before.IsSound deployment.identifiers)
    {call : ServiceCall}
    (subject : call.subject? (deployment.identifiers before.drawn) = some id) :
    before.store.SparesOthers (deployment.serve before call).store id := by
  cases deployment.serveRun fresh sound call with
  | untouched _ intents records =>
      exact ⟨congrArg _ intents, fun _ _ => congrArg _ records⟩
  | changed changedSubject changed =>
      obtain rfl := Option.some.inj (changedSubject.symm.trans subject)
      exact ⟨changed.intents.filter_ne, changed.tally.others⟩

end Deployment

/-- A call of a service of which every call to enforcement is put on record. -/
def ServedRequest.recorded {Client : Type} (request : ServedRequest Client) :
    ServedRequest (Recorded Client) where
  enforcement := request.enforcement.recorded
  baselines := request.baselines
  correlationId := request.correlationId
  call := request.call

/-- A client issues the same identifiers while its calls are put on record. -/
theorem Enforcement.IssuesFresh.recorded
    {Client : Type}
    {enforcement : Enforcement Client}
    {inUse : Client → String → Prop}
    (issues : enforcement.IssuesFresh inUse) :
    enforcement.recorded.IssuesFresh (inUse ·.state) where
  create answered := issues.create (Action.state_of_recorded answered)
  update known answered := issues.update known (Action.state_of_recorded answered)
  delete known answered := issues.delete known (Action.state_of_recorded answered)
  refuses {call before cause after} refuses := by
    have refusesWithin : enforcement.Refuses before.state cause after.state call := by
      cases call with
      | create policy => exact Action.state_of_recorded refuses
      | update externalId policy => exact Action.state_of_recorded refuses
      | delete externalId => exact Action.state_of_recorded refuses
    exact issues.refuses refusesWithin

/-- Records that are made from nothing on share no external identifier. -/
theorem registered_behind_recorded
    {Client : Type}
    {identifiers : Nat → String}
    {inUse : Client → String → Prop}
    {start : MemoryWorld (Recorded Client)}
    {requests : List (ServedRequest Client)}
    (fresh : Function.Injective identifiers)
    (noIntents : start.store.intents = [])
    (noRecords : start.store.records = [])
    (issues : ∀ request ∈ requests, request.enforcement.IssuesFresh inUse) :
    let world := attendAll identifiers (requests.map ServedRequest.recorded) start
    Registered (inUse world.client.state) world.store.records := by
  let recordedInUse : Recorded Client → String → Prop := (inUse ·.state)
  have recordedIssues : ∀ request ∈ requests.map ServedRequest.recorded,
      request.enforcement.IssuesFresh recordedInUse := by
    intro request member
    obtain ⟨unrecorded, asked, rfl⟩ := List.mem_map.mp member
    exact (issues unrecorded asked).recorded
  have registeredAtStart : Registered (recordedInUse start.client) start.store.records := by
    rw [noRecords]
    exact .nil _
  exact registeredAtStart.attendAll fresh (.of_empty noIntents noRecords) recordedIssues

/--
Operations on one intent leave all others alone.  Whatever was asked of whichever services before,
with clients that give out external identifiers that are not in use, and whichever call the last
operation stops at: other intents and the list of their records stay as they were, each owner's
list shows the same up to the intent that the operation is about, in the same order, and no call
to enforcement names the external identifier of a record of another intent.  An intent that is
created is not one of those that were stored.
-/
theorem operations_leave_other_intents_alone
    {Client : Type}
    (identifiers : Nat → String)
    (fresh : Function.Injective identifiers)
    (inUse : Client → String → Prop)
    (start before : MemoryWorld (Recorded Client))
    (noIntents : start.store.intents = [])
    (noRecords : start.store.records = [])
    (earlier : List (ServedRequest Client))
    (issues : ∀ request ∈ earlier, request.enforcement.IssuesFresh inUse)
    (reached : before = attendAll identifiers (earlier.map ServedRequest.recorded) start)
    (last : ServedRequest Client)
    (id : String)
    (subject : last.call.subject? (identifiers before.drawn) = some id) :
    let deployment := last.recorded.deployment identifiers
    let after := deployment.serve before last.call
    (∀ other, other ≠ id →
        after.store.findIntent other = before.store.findIntent other ∧
          after.store.listRecords other = before.store.listRecords other) ∧
      (∀ owner, ∃ shown shownAfter,
        (deployment.service.list owner).run before = (.ok shown, before) ∧
          (deployment.service.list owner).run after = (.ok shownAfter, after) ∧
          shownAfter.filter (·.intent.id != id) = shown.filter (·.intent.id != id)) ∧
      (∃ made, after.client.log = before.client.log ++ made ∧
        ∀ entry ∈ made, ∀ externalId, entry.1.externalId? = some externalId →
          ∀ record ∈ before.store.records, record.intentId ≠ id →
            record.externalId ≠ externalId) ∧
      ∀ owner text now, last.call = .create owner text now →
        before.store.findIntent id = none ∧ before.store.listRecords id = [] := by
  intro deployment after
  have startSound : start.IsSound identifiers := .of_empty noIntents noRecords
  have sound : before.IsSound identifiers := by
    rw [reached]
    exact isSound_attendAll fresh startSound _
  have registered : Registered (inUse before.client.state) before.store.records := by
    rw [reached]
    exact registered_behind_recorded fresh noIntents noRecords issues
  have spares : before.store.SparesOthers after.store id :=
    deployment.sparesOthers_serve fresh sound subject
  refine ⟨fun other apart => ⟨spares.findIntent apart, spares.listRecords apart⟩,
    fun owner => ⟨_, _, deployment.list_run owner before, deployment.list_run owner after,
      spares.views (trimmed owner)⟩, ?_, ?_⟩
  · obtain ⟨_, -, concludes⟩ := deployment.concludes_serve sound.distinctIds subject
    exact concludes.namesNoOthers Recorded.log (last.deployment identifiers).recorded_logs
      sound.distinctIds registered
  · intro owner text now created
    rw [created] at subject
    obtain rfl := Option.some.inj subject
    refine ⟨sound.findIntent_next fresh, ?_⟩
    exact List.perm_nil.mp (sound.recordsOf_next fresh ▸ before.store.listRecords_perm _)

/-- The update of the second intent of an owner is cut at the call behind the one it has made. -/
theorem operations_leave_other_intents_alone_behind_cut_update :
    let shelf := Shelf.deployment fun call => call == 3
    let earlier : List (ServedRequest Shelf) :=
      [{ enforcement := shelf.enforcement,
          call := .create "ann" "for ann select bitcoin as default" ⟨1, 0⟩ },
        { enforcement := shelf.enforcement,
          call := .create "ann" "for bob select bitcoin as default" ⟨2, 0⟩ }]
    let last : ServedRequest Shelf :=
      { enforcement := shelf.enforcement,
        call := .update "rrr" "for ann, bob select ethereum as default" ⟨3, 0⟩ }
    let start : MemoryWorld (Recorded Shelf) := ⟨{}, ⟨{}, []⟩, 0, []⟩
    let before := attendAll shelf.identifiers (earlier.map ServedRequest.recorded) start
    let deployment := last.recorded.deployment shelf.identifiers
    let after := deployment.serve before last.call
    before.store.records.map (fun record => (record.intentId, record.externalId)) =
        [("r", "p"), ("rrr", "pp")] ∧
      after.client.log.map (fun entry => (entry.1.externalId?, entry.2)) =
        [(none, true), (none, true), (some "pp", true), (none, false)] ∧
      after.store.records ≠ before.store.records ∧
      after.store.findIntent "r" = before.store.findIntent "r" ∧
      after.store.listRecords "r" = before.store.listRecords "r" ∧
      ∃ shown shownAfter,
        (deployment.service.list "ann").run before = (.ok shown, before) ∧
          (deployment.service.list "ann").run after = (.ok shownAfter, after) ∧
          shownAfter.filter (·.intent.id != "rrr") = shown.filter (·.intent.id != "rrr") := by
  intro shelf earlier last start before deployment after
  have issues : ∀ request ∈ earlier, request.enforcement.IssuesFresh fun client externalId =>
      (client.held externalId).isSome = true := by
    have stores := Shelf.storesPolicies fun call => call == 3
    simpa [earlier, shelf, Shelf.deployment] using stores.issuesFresh
  obtain ⟨others, lists, -⟩ := operations_leave_other_intents_alone shelf.identifiers
    (Shelf.identifiers_injective _) _ start before rfl rfl earlier issues rfl last "rrr" rfl
  obtain ⟨sameIntent, sameRecords⟩ := others "r" (by decide)
  exact ⟨by decide +kernel, by decide +kernel, by decide +kernel, sameIntent, sameRecords,
    lists "ann"⟩

end IntentPolicy
