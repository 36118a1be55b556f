import IntentPolicy.Proofs.Service.Concluding

namespace IntentPolicy

/-!
# The audit trail

Events are put on record while policies are enforced, and records are stored behind them.
Replaying the events, by the names and the metadata that they are received with, leads to what is
stored, wherever an operation was cut, and the last event of an operation tells how it ended.
-/

/-- What the events tell about a stored record. -/
structure AuditedRecord where
  externalId : String
  user : String
  deriving Repr, DecidableEq

/-- What is to be told about a record. -/
def PolicyRecord.audited (record : PolicyRecord) : AuditedRecord :=
  ⟨record.externalId, record.policy.user⟩

/-- An event as it is received: under a name, with metadata. -/
structure ReceivedEvent where
  name : String
  metadata : List (String × String)
  deriving Repr, DecidableEq

/-- What is told of a record, as far as metadata names one. -/
def ReceivedEvent.about? (event : ReceivedEvent) : Option (String × AuditedRecord) := do
  let recordId ← event.metadata.lookup "record_id"
  return (recordId, ⟨← event.metadata.lookup "external_id", ← event.metadata.lookup "user"⟩)

/-- What is told of the records behind an event: one is added, overwritten or removed. -/
def ReceivedEvent.retell (told : String → Option AuditedRecord) (event : ReceivedEvent) :
    String → Option AuditedRecord :=
  match event.about? with
  | none => told
  | some (recordId, record) =>
      if event.name = "policy.created" ∨ event.name = "policy.updated" then
        Function.update told recordId (some record)
      else if event.name = "policy.deleted" then Function.update told recordId none
      else told

namespace AuditDetail

/-- The event that is received of a detail. -/
def received (detail : AuditDetail) : ReceivedEvent :=
  ⟨detail.name, detail.metadata⟩

variable {told : String → Option AuditedRecord} {recordId externalId user : String}

@[simp]
theorem retell_policyCreated :
    (policyCreated recordId externalId user).received.retell told =
      Function.update told recordId (some ⟨externalId, user⟩) := by
  simp [ReceivedEvent.retell, ReceivedEvent.about?, received, name, metadata, List.lookup_cons]

@[simp]
theorem retell_policyUpdated :
    (policyUpdated recordId externalId user).received.retell told =
      Function.update told recordId (some ⟨externalId, user⟩) := by
  simp [ReceivedEvent.retell, ReceivedEvent.about?, received, name, metadata, List.lookup_cons]

@[simp]
theorem retell_policyDeleted :
    (policyDeleted recordId externalId user).received.retell told =
      Function.update told recordId none := by
  simp [ReceivedEvent.retell, ReceivedEvent.about?, received, name, metadata, List.lookup_cons]

/-- How an operation ended is nothing about a record. -/
theorem retell_of_isClosing
    {detail : AuditDetail}
    (told : String → Option AuditedRecord)
    (closing : detail.isClosing = true) :
    detail.received.retell told = told := by
  have aboutNone : detail.received.about? = none := by
    cases detail with
    | policyCreated => cases closing
    | policyUpdated => cases closing
    | policyDeleted => cases closing
    | _ => simp [ReceivedEvent.about?, received, metadata, List.lookup_cons]
  rw [ReceivedEvent.retell, aboutNone]

end AuditDetail

/-- What events tell of the records, from nothing on, as they are received. -/
def replay (events : List AuditEvent) : String → Option AuditedRecord :=
  events.foldl (fun told event => event.detail.received.retell told) fun _ => none

/-- Events that are emitted as one operation end in one that tells how, the only one to do so. -/
structure ClosesWith (emitted : List AuditEvent) (closing : AuditDetail) : Prop where
  isLast : (emitted.map (·.detail)).getLast? = some closing
  onlyOne : (emitted.map (·.detail)).filter AuditDetail.isClosing = [closing]

namespace MemoryStore

variable {store : MemoryStore} {record : PolicyRecord} {id : String}

/-- What is to be told of the stored records. -/
def audited (store : MemoryStore) (id : String) : Option AuditedRecord :=
  (store.findRecord id).map PolicyRecord.audited

theorem audited_of_records
    {twin : MemoryStore}
    (sameRecords : store.records = twin.records) :
    store.audited = twin.audited := by
  funext id
  rw [audited, findRecord, sameRecords, audited, findRecord]

theorem audited_deleteRecord
    (store : MemoryStore)
    (id : String) :
    (store.deleteRecord id).audited = Function.update store.audited id none := by
  funext other
  rw [audited, findRecord, deleteRecord, List.find?_filter]
  by_cases same : other = id
  · subst same
    simp
  · rw [Function.update_of_ne same, audited, findRecord]
    congr 2
    funext record
    by_cases sameId : record.id = other
    · simp [sameId, same]
    · simp [sameId]

theorem audited_saveRecord
    (store : MemoryStore)
    (record : PolicyRecord) :
    (store.saveRecord record).audited =
      Function.update store.audited record.id (some record.audited) := by
  have others := store.audited_deleteRecord record.id
  funext other
  rw [audited, findRecord, saveRecord, List.find?_append]
  by_cases same : other = record.id
  · subst same
    have absent : (store.records.filter (·.id != record.id)).find? (·.id == record.id) = none := by
      simp
    rw [absent]
    simp [PolicyRecord.audited]
  · have elsewhere := congrFun others other
    rw [Function.update_of_ne same] at elsewhere ⊢
    rw [← elsewhere, audited, findRecord, deleteRecord]
    simp [findRecord, Ne.symm same]

/-- The event of a change tells what the change has done to the records. -/
theorem audited_withChange
    (store : MemoryStore)
    (change : AppliedStep) :
    (store.withChange change).audited = change.auditDetail.received.retell store.audited := by
  cases change with
  | created record =>
      exact (store.audited_saveRecord record).trans AuditDetail.retell_policyCreated.symm
  | updated record =>
      exact (store.audited_saveRecord record).trans AuditDetail.retell_policyUpdated.symm
  | deleted record =>
      exact (store.audited_deleteRecord record.id).trans AuditDetail.retell_policyDeleted.symm

theorem audited_withChanges
    (changes : List AppliedStep) :
    (store.withChanges changes).audited =
      (changes.map AppliedStep.auditDetail).foldl (fun told detail => detail.received.retell told)
        store.audited := by
  induction changes generalizing store with
  | nil => rfl
  | cons change changes inductionHypothesis =>
      have goesOn : store.withChanges (change :: changes) =
          (store.withChange change).withChanges changes := rfl
      rw [goesOn, inductionHypothesis, audited_withChange]
      rfl

theorem distinctIds_withChange
    (distinctIds : (store.records.map (·.id)).Nodup)
    (change : AppliedStep) :
    ((store.withChange change).records.map (·.id)).Nodup := by
  cases change with
  | created record => exact nodup_save distinctIds rfl
  | updated record => exact nodup_save distinctIds rfl
  | deleted record => exact distinctIds.sublist (List.filter_sublist.map _)

theorem distinctIds_withChanges
    (distinctIds : (store.records.map (·.id)).Nodup)
    (changes : List AppliedStep) :
    ((store.withChanges changes).records.map (·.id)).Nodup := by
  induction changes generalizing store with
  | nil => exact distinctIds
  | cons change changes inductionHypothesis =>
      exact inductionHypothesis (distinctIds_withChange distinctIds change)

end MemoryStore

namespace Deployment

variable {Client : Type} {deployment : Deployment Client}
  {start before reached after : MemoryWorld Client} {id : String} {now : Instant}
  {old : List PolicyRecord} {policies : List Policy} {execution : Execution}
  {closing : AuditDetail} {answer : Except ServiceError AuditDetail}

/-- Changes have been put on record and stored, and at last it was told how that ended. -/
structure Reports (deployment : Deployment Client) (before after : MemoryWorld Client)
    (intentId : String) (changes : List AppliedStep) (closing : AuditDetail) : Prop where
  isClosing : closing.isClosing = true
  events : after.events = before.events ++
    (changes.map AppliedStep.auditDetail ++ [closing]).map (deployment.event intentId)
  records : after.store.records = (before.store.withChanges changes).records

/-- An operation that is not refused reports its changes, and the call that failed if one did. -/
theorem Concludes.reports
    (concludes : deployment.Concludes before id answer after) :
    match answer with
    | .ok closing => ∃ changes, deployment.Reports before after id changes closing
    | .error (.integration _) => ∃ changes user error,
        deployment.Reports before after id changes (.enforcementFailed user error)
    | .error _ => after = before := by
  cases concludes with
  | refused => rfl
  | @interrupted _ _ _ _ _ execution interruption _ begins ran stopped stored =>
      have sameEvents := (Reconciler.planRun_of_reconcile ran).events.trans begins.frame.2.2.1
      have told : execution.auditDetails = execution.applied.map AppliedStep.auditDetail ++
          [.enforcementFailed interruption.user interruption.cause.message] := by
        rw [Execution.auditDetails, stopped]
        rfl
      refine ⟨execution.applied, interruption.user, interruption.cause.message, rfl, ?_, stored⟩
      rw [← told, ← sameEvents]
      rfl
  | @completed _ _ _ _ _ execution closing _ begins ran finished stored isClosing =>
      have sameEvents := (Reconciler.planRun_of_reconcile ran).events.trans begins.frame.2.2.1
      have told : execution.auditDetails = execution.applied.map AppliedStep.auditDetail := by
        rw [Execution.auditDetails, finished]
        exact List.append_nil _
      refine ⟨execution.applied, isClosing, ?_, stored⟩
      rw [← told, ← sameEvents]
      rfl

/-- What is emitted with changes ends in the one event that tells how it ended. -/
theorem Reports.closesWith
    {changes : List AppliedStep}
    (reports : deployment.Reports before after id changes closing) :
    ∃ emitted, after.events = before.events ++ emitted ∧ ClosesWith emitted closing := by
  have details : ((changes.map AppliedStep.auditDetail ++ [closing]).map
      (deployment.event id)).map (·.detail) = changes.map AppliedStep.auditDetail ++ [closing] := by
    rw [List.map_map]
    exact List.map_id _
  have noneInFront : (changes.map AppliedStep.auditDetail).filter AuditDetail.isClosing = [] := by
    rw [List.filter_eq_nil_iff]
    intro detail member
    obtain ⟨change, -, rfl⟩ := List.mem_map.mp member
    rw [change.isClosing_auditDetail]
    exact Bool.false_ne_true
  refine ⟨_, reports.events, ?_, ?_⟩
  · rw [details, List.getLast?_concat]
  · rw [details, List.filter_append, noneInFront, List.filter_singleton, reports.isClosing]
    rfl

end Deployment

/-- The records can be told apart, and the events tell what they are. -/
structure MemoryWorld.IsTold {Client : Type} (world : MemoryWorld Client) : Prop where
  distinctIds : (world.store.records.map (·.id)).Nodup
  told : replay world.events = world.store.audited

namespace MemoryWorld.IsTold

variable {Client : Type} {deployment : Deployment Client} {before after : MemoryWorld Client}

theorem start
    {start : MemoryWorld Client}
    (noRecords : start.store.records = [])
    (noEvents : start.events = []) :
    start.IsTold := by
  refine ⟨by simp [noRecords], ?_⟩
  funext id
  rw [noEvents, MemoryStore.audited, MemoryStore.findRecord, noRecords]
  rfl

/-- What is stored and put on record together is told. -/
theorem of_reports
    {intentId : String}
    {changes : List AppliedStep}
    {closing : AuditDetail}
    (told : before.IsTold)
    (reports : deployment.Reports before after intentId changes closing) :
    after.IsTold where
  distinctIds := by
    rw [reports.records]
    exact MemoryStore.distinctIds_withChanges told.distinctIds changes
  told := by
    have replayed : replay before.events = before.store.audited := told.told
    rw [replay] at replayed
    rw [replay, reports.events, List.foldl_append, replayed, List.foldl_map, List.foldl_append,
      MemoryStore.audited_of_records reports.records, MemoryStore.audited_withChanges]
    exact AuditDetail.retell_of_isClosing _ reports.isClosing

theorem of_concludes
    {id : String}
    {answer : Except ServiceError AuditDetail}
    (told : before.IsTold)
    (concludes : deployment.Concludes before id answer after) :
    after.IsTold := by
  have reported := concludes.reports
  cases concludes with
  | refused => exact told
  | interrupted =>
      obtain ⟨_, _, _, reports⟩ := reported
      exact told.of_reports reports
  | completed =>
      obtain ⟨_, reports⟩ := reported
      exact told.of_reports reports

/-- Every call leaves records that the events tell. -/
theorem serve
    (told : before.IsTold)
    (deployment : Deployment Client)
    (call : ServiceCall) :
    (deployment.serve before call).IsTold := by
  cases subject : call.subject? (deployment.identifiers before.drawn) with
  | none =>
      obtain ⟨rate, rfl⟩ := ServiceCall.eq_saveRate_of_subject? subject
      exact ⟨told.distinctIds, told.told⟩
  | some id =>
      obtain ⟨_, -, concludes⟩ := deployment.concludes_serve told.distinctIds subject
      exact told.of_concludes concludes

theorem attendAll
    (told : before.IsTold)
    (identifiers : Nat → String)
    (requests : List (ServedRequest Client)) :
    (attendAll identifiers requests before).IsTold := by
  induction requests generalizing before with
  | nil => exact told
  | cons request requests inductionHypothesis =>
      exact inductionHypothesis (told.serve (request.deployment identifiers) request.call)

end MemoryWorld.IsTold

/--
The audit trail replays to the store.  Behind every sequence of operations that starts without
records and events, whichever calls fail and however the operations end, replaying the events
leads to the stored records with their external identifiers and users.  An operation that was
cut by a call emits one event of a failed call, as its last, and none for the intent; one that
is answered emits one event for the intent, as its last, and none of a failed call.
-/
theorem audit_trail_replays_to_store
    {Client : Type}
    (identifiers : Nat → String)
    (start before : MemoryWorld Client)
    (noRecords : start.store.records = [])
    (noEvents : start.events = [])
    (earlier : List (ServedRequest Client))
    (reached : before = attendAll identifiers earlier start) :
    (before.store.records.map (·.id)).Nodup ∧
      (∀ id, replay before.events id = (before.store.findRecord id).map PolicyRecord.audited) ∧
      ∀ (deployment : Deployment Client) (call : ServiceCall)
        (answer : Except ServiceError AuditDetail),
        deployment.conclusion? before call = some answer →
          ∃ emitted, (deployment.serve before call).events = before.events ++ emitted ∧
            match answer with
            | .ok closing => ClosesWith emitted closing
            | .error (.integration _) =>
                ∃ user error, ClosesWith emitted (.enforcementFailed user error)
            | .error _ => emitted = [] := by
  have told : before.IsTold := by
    rw [reached]
    exact MemoryWorld.IsTold.attendAll (.start noRecords noEvents) identifiers earlier
  refine ⟨told.distinctIds, congrFun told.told, fun deployment call answer answered => ?_⟩
  obtain ⟨id, concludes⟩ := deployment.concludes_of_conclusion? told.distinctIds answered
  have reported := concludes.reports
  generalize deployment.serve before call = after at concludes reported ⊢
  cases concludes with
  | refused => exact ⟨[], (List.append_nil _).symm, rfl⟩
  | interrupted =>
      obtain ⟨_, user, error, reports⟩ := reported
      obtain ⟨emitted, eventsEq, closes⟩ := reports.closesWith
      exact ⟨emitted, eventsEq, user, error, closes⟩
  | completed =>
      obtain ⟨_, reports⟩ := reported
      exact reports.closesWith

/-- A create that is cut is taken up by an update, and another update is cut behind them. -/
theorem audit_trail_replays_to_store_behind_cuts :
    let deployment := Shelf.deployment fun call => call == 1 || call == 4
    let earlier : List (ServedRequest Shelf) :=
      [{ enforcement := deployment.enforcement,
          call := .create "ann" "for ann, bob select bitcoin as default" ⟨1, 0⟩ },
        { enforcement := deployment.enforcement,
          call := .update "r" "for ann select ethereum as default" ⟨2, 0⟩ }]
    let start : MemoryWorld Shelf := ⟨{}, {}, 0, []⟩
    let before := attendAll deployment.identifiers earlier start
    let call : ServiceCall := .update "r" "for ann, bob select bitcoin as default" ⟨3, 0⟩
    before.events.map (·.detail.name) =
        ["policy.created", "policy.enforcement_failed", "policy.updated", "intent.updated"] ∧
      replay before.events "rr" = some ⟨"p", "ann"⟩ ∧
      (∀ id, replay before.events id = (before.store.findRecord id).map PolicyRecord.audited) ∧
      ∃ emitted user error,
        (deployment.serve before call).events = before.events ++ emitted ∧
          ClosesWith emitted (.enforcementFailed user error) := by
  intro deployment earlier start before call
  obtain ⟨-, replayed, concludes⟩ :=
    audit_trail_replays_to_store deployment.identifiers start before rfl rfl earlier rfl
  have cut : deployment.conclusion? before call = some (.error (.integration
      "enforcement failed after 1 applied step(s): policy rejected by enforcement: refused")) := by
    decide +kernel
  obtain ⟨emitted, eventsEq, user, error, closes⟩ := concludes deployment call _ cut
  exact ⟨by decide +kernel, by decide +kernel, replayed, emitted, user, error, eventsEq, closes⟩

end IntentPolicy
