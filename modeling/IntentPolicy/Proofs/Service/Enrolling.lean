import IntentPolicy.Proofs.Service.Belonging
import IntentPolicy.Proofs.Service.Refusing
import IntentPolicy.Proofs.Service.Showing

namespace IntentPolicy

/-!
# What an update enforces

Records that were stored while enforcement was disabled are not known to it.  An update makes
them known as far as it changes them: a record that already holds its policy is left alone.
-/

/-- A call of a service, with what the service is set up with when it is called. -/
structure ServedRequest (Client : Type) where
  enforcement : Enforcement Client
  baselines : Baselines := {}
  correlationId : String := ""
  call : ServiceCall

/-- The service that a request is made of. -/
def ServedRequest.deployment {Client : Type} (request : ServedRequest Client)
    (identifiers : Nat → String) : Deployment Client where
  enforcement := request.enforcement
  identifiers := identifiers
  baselines := request.baselines
  correlationId := request.correlationId

/-- The world behind requests that are made one after the other, each of a service of its own. -/
def attendAll {Client : Type} (identifiers : Nat → String) (requests : List (ServedRequest Client))
    (world : MemoryWorld Client) : MemoryWorld Client :=
  requests.foldl (fun world request => (request.deployment identifiers).serve world request.call)
    world

/-- A policy that is created always gets an identifier. -/
def Enforcement.Assigns {State : Type} (enforcement : Enforcement State) : Prop :=
  ∀ policy before externalId after,
    (enforcement.create policy).run before = (.ok externalId, after) →
      isAssigned externalId = true

/--
What an update leaves alone: the plan for the records that are listed and the policies of the
text leaves the record unchanged, and the record holds one of those policies.
-/
def Service.LeavesAlone {State : Type} (service : Service State) (id text : String)
    (state : State) (record : PolicyRecord) : Prop :=
  ∃ sentence policies listed,
    (service.translate text).run state = (.ok (sentence, policies), state) ∧
    (service.repositories.listRecords id).run state = (.ok listed, state) ∧
    .unchanged record ∈ planReconciliation listed policies ∧
    ∃ policy ∈ policies, record.policy.agrees policy = true

/-- The rows of the records in a database. -/
def Database.recordRows : Database → List RecordRow
  | .migrated tables => tables.records.rows
  | .unmigrated .. => []

/-- A record that is left unchanged is one of the old ones and holds one of the new policies. -/
theorem unchanged_of_alignedPlan
    {pending : List PolicyRecord}
    {left : List Policy}
    {record : PolicyRecord}
    (planned : PlanStep.unchanged record ∈ alignedPlan pending left) :
    record ∈ pending ∧ ∃ policy ∈ left, record.policy.agrees policy = true := by
  rcases mem_alignedPlan planned with
    ⟨_, _, impossible⟩ | ⟨held, pends, policy, wanted, keeps⟩ | ⟨_, _, impossible⟩
  · cases impossible
  · rw [PlanStep.keep] at keeps
    split at keeps
    · next agrees =>
        obtain rfl := PlanStep.unchanged.inj keeps
        exact ⟨pends, policy, wanted, agrees⟩
    · cases keeps
  · cases impossible

namespace Reconciler

variable {State : Type} {reconciler : Reconciler State} {intentId : String} {now : Instant}

/-- A step leaves a record that enforcement knows, unless it leaves one unchanged. -/
theorem StepRun.assigned
    {created : Nat}
    {step : PlanStep}
    {record : PolicyRecord}
    {change : Option AppliedStep}
    {before after : State}
    (run : reconciler.StepRun intentId now created before step (.ok (some record, change)) after)
    (assigns : reconciler.enforcement.Assigns) :
    isAssigned record.externalId = true ∨ step = .unchanged record := by
  cases run with
  | unchanged => exact Or.inr rfl
  | updated assigned => exact Or.inl assigned
  | registered _ answered => exact Or.inl (assigns _ _ _ _ answered)
  | created answered => exact Or.inl (assigns _ _ _ _ answered)

theorem PlanRun.assigned
    {steps : List PlanStep}
    {execution final : Execution}
    {record : PolicyRecord}
    {before after : State}
    (run : reconciler.PlanRun intentId now steps execution before final after)
    (assigns : reconciler.enforcement.Assigns)
    (isLeft : record ∈ final.records) :
    record ∈ execution.records ∨ isAssigned record.externalId = true ∨
      .unchanged record ∈ steps := by
  induction run with
  | finished => exact Or.inl isLeft
  | @stepped step rest execution final left change before reached after run _ inductionHypothesis =>
      rcases inductionHypothesis isLeft with noted | assigned | unchanged
      · rcases List.mem_append.mp noted with earlier | here
        · exact Or.inl earlier
        · obtain rfl := Option.mem_toList.mp here
          rcases run.assigned assigns with assigned | rfl
          · exact Or.inr (Or.inl assigned)
          · exact Or.inr (Or.inr List.mem_cons_self)
      · exact Or.inr (Or.inl assigned)
      · exact Or.inr (Or.inr (List.mem_cons_of_mem step unchanged))
  | stopped => exact Or.inl isLeft

end Reconciler

variable {Client : Type} {identifiers : Nat → String} {before after : MemoryWorld Client}

/-- Whatever is asked of whichever services, what is stored is sound. -/
theorem isSound_attendAll
    (fresh : Function.Injective identifiers)
    (sound : before.IsSound identifiers)
    (requests : List (ServedRequest Client)) :
    (attendAll identifiers requests before).IsSound identifiers := by
  induction requests generalizing before with
  | nil => exact sound
  | cons request requests inductionHypothesis =>
      have run := (request.deployment identifiers).serveRun fresh sound request.call
      exact inductionHypothesis (run.isSound sound)

namespace Deployment

variable {deployment : Deployment Client} {id text : String} {now : Instant}

theorem assigns_reconciler
    (assigns : deployment.enforcement.Assigns) :
    deployment.reconciler.enforcement.Assigns := by
  intro policy before externalId after answered
  obtain ⟨client, ran, rfl⟩ := Action.of_run_within answered
  exact assigns policy _ externalId client ran

/-- What an update leaves of an intent is known to enforcement, or was left alone. -/
theorem UpdateRun.assigned_of_ok
    {view : IntentView}
    {record : PolicyRecord}
    (run : deployment.UpdateRun id text now before (.ok view) after)
    (fresh : Function.Injective deployment.identifiers)
    (sound : before.IsSound deployment.identifiers)
    (assigns : deployment.enforcement.Assigns)
    (stored : record ∈ after.store.recordsOf id) :
    isAssigned record.externalId = true ∨
      record ∈ before.store.recordsOf id ∧
        deployment.service.LeavesAlone id text before record := by
  have contains := run.contains fresh sound
  cases run with
  | @completed held sentence policies execution reached found translated ran finished =>
      obtain ⟨-, rfl⟩ := MemoryStore.stored_of_findIntent found
      have isLeft : record ∈ execution.records := contains.records.mem_iff.mp stored
      have planned := Reconciler.planRun_of_reconcile ran
      rcases planned.assigned (assigns_reconciler assigns) isLeft with none | assigned | unchanged
      · cases none
      · exact Or.inl assigned
      · obtain ⟨listed, holds⟩ := unchanged_of_alignedPlan (planReconciliation_eq _ _ ▸ unchanged)
        have wasStored := (before.store.listRecords_perm held.id).mem_iff.mp
          ((oldestFirst_perm _).mem_iff.mp listed)
        have translates : (deployment.service.translate text).run before =
            (.ok (sentence, policies), before) := by
          rw [deployment.translate_run, translated]
          rfl
        exact Or.inr ⟨wasStored, sentence, policies, _, translates, rfl, unchanged, holds⟩

end Deployment

namespace Tracks

variable {deployment : Deployment Client} {id text : String} {now : Instant} {view : IntentView}
  {memory : MemoryWorld Client} {world updated : DatabaseWorld Client}

/-- The rows are what the records in memory are laid out as. -/
theorem mem_recordRows
    {row : RecordRow}
    (tracks : Tracks identifiers memory world) :
    row ∈ world.database.recordRows ↔
      ∃ record ∈ memory.store.records, RecordRow.layout record = row := by
  obtain ⟨tables, isMigrated, holds⟩ := tracks.holds
  rw [isMigrated, Database.recordRows, holds.records.laidOut.mem_iff, List.mem_map]

/-- The text of an update that is answered was translated, to what it is translated to in memory. -/
theorem translates_of_updated
    (tracks : Tracks deployment.identifiers memory world)
    (answered : (deployment.databaseService.update id text now).run world = (.ok view, updated)) :
    ∃ translation,
      (deployment.service.translate text).run memory = (.ok translation, memory) ∧
        (deployment.databaseService.translate text).run world = (.ok translation, world) := by
  have readsOnly : deployment.databaseService.repositories.ReadsOnly :=
    Database.readsOnly fun _ => rfl
  rw [Service.update] at answered
  obtain ⟨_, -, behindFind⟩ := (Service.keeps_find readsOnly id).of_run_bind answered
  obtain ⟨translation, translates, -⟩ :=
    (Service.keeps_translate readsOnly text).of_run_bind behindFind
  have follows : Follows True (Tracks deployment.identifiers) _
      ((deployment.service.translate text).run memory)
      ((deployment.databaseService.translate text).run world) :=
    tracks.translate (Or.inl trivial) text
  rw [translates] at follows
  obtain ⟨_, _, ran, ⟨-, rfl, rfl⟩, -⟩ := follows.of_answered
  exact ⟨translation, ran, translates⟩

/-- Records that can be read are listed as they are given back. -/
theorem listRecords_run
    (tracks : Tracks identifiers memory world)
    (readable : ∀ record ∈ memory.store.recordsOf id, record.IsWritable) :
    (deployment.databaseService.repositories.listRecords id).run world =
      (.ok ((memory.store.listRecords id).map PolicyRecord.stored), world) :=
  DatabaseWorld.run_of_database ((tracks.holds.listRecords id).eq_ok readable)

/-- What an update leaves alone in memory, it leaves alone over a database. -/
theorem leavesAlone
    {record : PolicyRecord}
    (tracks : Tracks deployment.identifiers memory world)
    (answered : (deployment.databaseService.update id text now).run world = (.ok view, updated))
    (readable : ∀ record ∈ memory.store.recordsOf id, record.IsWritable)
    (leftAlone : deployment.service.LeavesAlone id text memory record) :
    deployment.databaseService.LeavesAlone id text world record.stored := by
  obtain ⟨sentence, policies, listed, translates, lists, unchanged, policy, wanted, holds⟩ :=
    leftAlone
  obtain ⟨translation, memoryTranslates, databaseTranslates⟩ :=
    tracks.translates_of_updated answered
  cases translates.symm.trans memoryTranslates
  obtain rfl : memory.store.listRecords id = listed := by
    cases lists
    rfl
  have whole : ∀ held ∈ memory.store.listRecords id, held.createdAt.cut = held.createdAt :=
    fun held isListed => (tracks.storable (MemoryStore.mem_listRecords.mp isListed).1).createdAt.cut
  refine ⟨sentence, policies, _, databaseTranslates, tracks.listRecords_run readable, ?_, policy,
    wanted, ?_⟩
  · rw [planReconciliation_map_stored whole]
    exact List.mem_map_of_mem unchanged
  · rw [PolicyRecord.stored, Policy.stored_agrees]
    exact holds

/-- What an update over a database leaves of an intent is assigned, or was left alone. -/
theorem assigned_of_updated
    {row : RecordRow}
    (tracks : Tracks deployment.identifiers memory world)
    (fresh : Function.Injective deployment.identifiers)
    (assigns : deployment.enforcement.Assigns)
    (isTime : now.IsTime)
    (answered : (deployment.databaseService.update id text now).run world = (.ok view, updated))
    (stored : row ∈ updated.database.recordRows)
    (ofIntent : row.intentId = id) :
    isAssigned row.externalId = true ∨
      row ∈ world.database.recordRows ∧ ∃ record, row.read = .ok record ∧
        deployment.databaseService.LeavesAlone id text world record := by
  have follows := tracks.update fresh isTime (Or.inl trivial) (Or.inl trivial) id text
  rw [answered] at follows
  obtain ⟨memoryView, left, ran, ⟨-, readable⟩, stillTracks⟩ := follows.of_answered
  have run := deployment.updateRun id text now.cut memory
  rw [ran] at run
  obtain ⟨record, isStored, rfl⟩ := stillTracks.mem_recordRows.mp stored
  rcases run.assigned_of_ok fresh tracks.sound assigns
    (MemoryStore.mem_recordsOf.mpr ⟨isStored, ofIntent⟩) with assigned | ⟨held, leftAlone⟩
  · exact Or.inl assigned
  · have wasStored := (MemoryStore.mem_recordsOf.mp held).1
    have storable := tracks.storable wasStored
    obtain ⟨createdWritable, updatedWritable⟩ := readable record held
    have reads := RecordRow.read_layout storable.createdAt.isTime storable.updatedAt.isTime
      createdWritable updatedWritable
    exact Or.inr ⟨tracks.mem_recordRows.mpr ⟨record, wasStored, rfl⟩, record.stored, reads,
      tracks.leavesAlone answered readable leftAlone⟩

end Tracks

/--
What an update enforces.  Whatever was asked of whichever services before, with enforcement
disabled for some of them, over the store in memory or over a database: behind an update that is
answered, of a service whose client assigns an identifier to every policy it creates, a record of
the intent is assigned, unless it was stored unassigned before and the plan leaves it unchanged
because it holds its new policy.
-/
theorem updated_records_are_assigned
    {Client : Type}
    (identifiers : Nat → String)
    (fresh : Function.Injective identifiers)
    (deployment : Deployment Client)
    (sameIdentifiers : deployment.identifiers = identifiers)
    (assigns : deployment.enforcement.Assigns)
    (id text : String)
    (now : Instant)
    (view : IntentView) :
    (∀ (start before after : MemoryWorld Client) (earlier : List (ServedRequest Client)),
        start.store.intents = [] → start.store.records = [] →
        before = attendAll identifiers earlier start →
        (deployment.service.update id text now).run before = (.ok view, after) →
        ∀ record ∈ after.store.records, record.intentId = id →
          isAssigned record.externalId = true ∨
            record ∈ before.store.records ∧ isAssigned record.externalId = false ∧
              deployment.service.LeavesAlone id text before record) ∧
      ∀ (start before after : DatabaseWorld Client) (earlier : List (OperationRequest Client)),
        start.database = .fresh →
        (∀ request ∈ earlier, request.deployment.identifiers = identifiers) →
        (∀ request ∈ earlier, ∀ time ∈ request.operation.time?, time.IsTime) →
        now.IsTime →
        before = (resultsOf OperationRequest.inDatabase earlier start).2 →
        (deployment.databaseService.update id text now).run before = (.ok view, after) →
        ∀ row ∈ after.database.recordRows, row.intentId = id →
          isAssigned row.externalId = true ∨
            row ∈ before.database.recordRows ∧ isAssigned row.externalId = false ∧
              ∃ record, row.read = .ok record ∧
                deployment.databaseService.LeavesAlone id text before record := by
  subst sameIdentifiers
  -- An assigned identifier settles the claim, so the other case is about the unassigned.
  have unassignedOr {externalId : String} {isLeft left : Prop}
      (outcome : isAssigned externalId = true ∨ isLeft ∧ left) :
      isAssigned externalId = true ∨ isLeft ∧ isAssigned externalId = false ∧ left := by
    cases assigned : isAssigned externalId with
    | true => exact Or.inl rfl
    | false =>
        rcases outcome with known | ⟨held, leftAlone⟩
        · rw [known] at assigned
          cases assigned
        · exact Or.inr ⟨held, rfl, leftAlone⟩
  constructor
  · rintro start _ after earlier noIntents noRecords rfl answered record stored ofIntent
    have startSound : start.IsSound deployment.identifiers := .of_empty noIntents noRecords
    have sound := isSound_attendAll fresh startSound earlier
    have run := deployment.updateRun id text now (attendAll deployment.identifiers earlier start)
    rw [answered] at run
    have outcome := run.assigned_of_ok fresh sound assigns
      (MemoryStore.mem_recordsOf.mpr ⟨stored, ofIntent⟩)
    exact unassignedOr (outcome.imp_right fun ⟨held, leftAlone⟩ =>
      ⟨(MemoryStore.mem_recordsOf.mp held).1, leftAlone⟩)
  · rintro start _ after earlier isFresh sameBefore timeBefore isTime rfl answered row stored
      ofIntent
    obtain ⟨database, client, drawn, events⟩ := start
    subst isFresh
    obtain ⟨memory, tracks⟩ := (Tracks.fresh deployment.identifiers client drawn [] events)
      |>.exists_tracked fresh sameBefore timeBefore
    exact unassignedOr (tracks.assigned_of_updated fresh assigns isTime answered stored ofIntent)

namespace Shelf

/-- A shelf gives every policy an identifier. -/
theorem assigns
    (fails : Nat → Bool) :
    (enforcement fails).Assigns := by
  intro policy before externalId after ran
  exact ((storesPolicies fails).create ran).1

/-- A request to create an intent, made while enforcement is disabled. -/
def unenforcedCreate : ServedRequest Shelf where
  enforcement := .disabled Shelf
  call := .create "ann" "for ann select bitcoin as default" ⟨1, 0⟩

/-- The same request, made of a service over a database. -/
def unenforcedRequest : OperationRequest Shelf where
  deployment := unenforcedCreate.deployment (deployment fun _ => false).identifiers
  operation := .create "ann" "for ann select bitcoin as default" ⟨1, 0⟩

end Shelf

/--
A record that was stored while enforcement was disabled gets another policy, and is assigned, in
memory and in a database.
-/
theorem updated_records_are_assigned_under_other_policy :
    let deployment := Shelf.deployment fun _ => false
    let text := "for ann select ethereum as default"
    let held := attendAll deployment.identifiers [Shelf.unenforcedCreate] ⟨{}, {}, 0, []⟩
    let updated := (deployment.service.update "r" text ⟨2, 0⟩).run held
    let heldRows := (resultsOf OperationRequest.inDatabase [Shelf.unenforcedRequest]
      ⟨.fresh, {}, 0, []⟩).2
    let updatedRows := (deployment.databaseService.update "r" text ⟨2, 0⟩).run heldRows
    (held.store.records.map (isAssigned ·.externalId) = [false] ∧ updated.1.isOk = true ∧
        updated.2.store.records.map (·.intentId) = ["r"] ∧
        ∀ record ∈ updated.2.store.records, isAssigned record.externalId = true) ∧
      heldRows.database.recordRows.map (isAssigned ·.externalId) = [false] ∧
        updatedRows.1.isOk = true ∧
        updatedRows.2.database.recordRows.map (·.intentId) = ["r"] ∧
        ∀ row ∈ updatedRows.2.database.recordRows, isAssigned row.externalId = true := by
  intro deployment text held updated heldRows updatedRows
  have fresh : Function.Injective deployment.identifiers := Shelf.identifiers_injective _
  have assigns : deployment.enforcement.Assigns := Shelf.assigns _
  have isAnswer {result : Except ServiceError IntentView} (isOk : result.isOk = true) :
      ∃ view, result = .ok view := by
    cases result with
    | ok view => exact ⟨view, rfl⟩
    | error => cases isOk
  have enforced (view : IntentView) := updated_records_are_assigned deployment.identifiers fresh
    deployment rfl assigns "r" text ⟨2, 0⟩ view
  constructor
  · have unassigned : held.store.records.map (isAssigned ·.externalId) = [false] := by
      decide +kernel
    have isOk : updated.1.isOk = true := by decide +kernel
    have ofIntent : updated.2.store.records.map (·.intentId) = ["r"] := by decide +kernel
    have renewed : ∀ record ∈ updated.2.store.records,
        record ∉ held.store.records ∧ record.intentId = "r" := by decide +kernel
    have reached : held = attendAll deployment.identifiers [Shelf.unenforcedCreate]
      ⟨{}, {}, 0, []⟩ := rfl
    have ran : (deployment.service.update "r" text ⟨2, 0⟩).run held = updated := rfl
    -- What the runs come to has been looked at; from here on they stay closed.
    clear_value updated held
    refine ⟨unassigned, isOk, ofIntent, fun record stored => ?_⟩
    obtain ⟨notHeld, ofR⟩ := renewed record stored
    obtain ⟨view, answered⟩ := isAnswer isOk
    rcases (enforced view).1 _ held updated.2 _ rfl rfl reached (ran.trans (Prod.ext answered rfl))
      record stored ofR with assigned | ⟨wasHeld, -⟩
    · exact assigned
    · exact (notHeld wasHeld).elim
  · have unassigned : heldRows.database.recordRows.map (isAssigned ·.externalId) = [false] := by
      decide +kernel
    have isOk : updatedRows.1.isOk = true := by decide +kernel
    have ofIntent : updatedRows.2.database.recordRows.map (·.intentId) = ["r"] := by
      decide +kernel
    have renewed : ∀ row ∈ updatedRows.2.database.recordRows,
        row ∉ heldRows.database.recordRows ∧ row.intentId = "r" := by decide +kernel
    have sameIdentifiers : ∀ request ∈ [Shelf.unenforcedRequest],
        request.deployment.identifiers = deployment.identifiers := by
      intro request member
      rw [List.mem_singleton.mp member]
      rfl
    have isTime : ∀ request ∈ [Shelf.unenforcedRequest],
        ∀ time ∈ request.operation.time?, time.IsTime := by decide
    have reached : heldRows = (resultsOf OperationRequest.inDatabase [Shelf.unenforcedRequest]
      ⟨.fresh, {}, 0, []⟩).2 := rfl
    have ran : (deployment.databaseService.update "r" text ⟨2, 0⟩).run heldRows =
      updatedRows := rfl
    clear_value updatedRows heldRows
    refine ⟨unassigned, isOk, ofIntent, fun row stored => ?_⟩
    obtain ⟨notHeld, ofR⟩ := renewed row stored
    obtain ⟨view, answered⟩ := isAnswer isOk
    rcases (enforced view).2 _ heldRows updatedRows.2 _ rfl sameIdentifiers isTime (by decide)
      reached (ran.trans (Prod.ext answered rfl)) row stored ofR with assigned | ⟨wasHeld, -⟩
    · exact assigned
    · exact (notHeld wasHeld).elim

/-- A record that holds its policy already is left alone, so that it stays unassigned. -/
theorem unassigned_behind_update_with_same_text :
    let deployment := Shelf.deployment fun _ => false
    let before := attendAll deployment.identifiers [Shelf.unenforcedCreate] ⟨{}, {}, 0, []⟩
    let updated :=
      (deployment.service.update "r" "for ann select bitcoin as default" ⟨2, 0⟩).run before
    updated.1.isOk = true ∧
      ∃ record ∈ updated.2.store.records,
        record.intentId = "r" ∧ isAssigned record.externalId = false := by
  decide +kernel

end IntentPolicy
