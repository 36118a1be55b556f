import IntentPolicy.Proofs.Service.Interchange

namespace IntentPolicy

/-!
# What is answered is what is shown

A service over a database shows an intent as it answered when the intent was created or updated,
with its times cut to whole microseconds.  The clock must show a later time than the records in
the database were created at, and the times that are answered must have years of four digits.
-/

namespace PolicyRecord

variable {record other : PolicyRecord}

@[simp]
theorem isWritable_stored : record.stored.IsWritable ↔ record.IsWritable :=
  Iff.rfl

theorem IsStorable.stored
    (storable : record.IsStorable) :
    record.stored.IsStorable where
  nanFree := Policy.isNaNFree_stored.mpr storable.nanFree
  createdAt := storable.createdAt.isTime.isWhole_cut
  updatedAt := storable.updatedAt.isTime.isWhole_cut

end PolicyRecord

namespace IntentView

variable {left right view : IntentView}

/-- The times of a view can be read back. -/
def IsWritable (view : IntentView) : Prop :=
  view.intent.IsWritable ∧ ∀ record ∈ view.policies, record.IsWritable

instance (view : IntentView) : Decidable view.IsWritable :=
  inferInstanceAs (Decidable (_ ∧ _))

theorem isWritable_stored : view.stored.IsWritable ↔ view.IsWritable := by
  simp [IsWritable, stored, IntentRecord.IsWritable, IntentRecord.stored, Instant.IsWritable,
    Instant.year]

namespace IsLike

/-- Views that are stored alike are given back as one. -/
theorem stored_eq
    (like : left.IsLike right) :
    left.stored = right.stored := by
  have samePolicies : left.policies.map PolicyRecord.stored =
      right.policies.map PolicyRecord.stored := by
    rw [← List.forall₂_eq_eq_eq, List.forall₂_map_left_iff, List.forall₂_map_right_iff]
    exact like.policies
  rw [stored, stored, samePolicies, like.intent]
  simp [IntentRecord.stored]

theorem isWritable
    (like : left.IsLike right)
    (writable : right.IsWritable) :
    left.IsWritable := by
  rw [← isWritable_stored, like.stored_eq, isWritable_stored]
  exact writable

/-- What is given back of a view is stored like the view. -/
theorem stored
    (like : left.IsLike right) :
    left.stored.IsLike right where
  intent := by
    rw [like.stored_eq]
    rfl
  policies := by
    refine List.forall₂_map_left_iff.mpr (like.policies.imp fun record other same => ?_)
    rw [PolicyRecord.IsLike, PolicyRecord.stored_stored, same]

end IsLike

end IntentView

/-- Every record that can be read from the database was created before a time. -/
def Database.CreatedBefore (now : Instant) : Database → Prop
  | .migrated tables => ∀ row ∈ tables.records.rows,
      ∀ createdAt ∈ Instant.ofText? row.createdAt, createdAt.lt now = true
  | .unmigrated .. => True

instance (now : Instant) : ∀ database : Database, Decidable (database.CreatedBefore now)
  | .migrated tables => inferInstanceAs (Decidable (∀ row ∈ tables.records.rows,
      ∀ createdAt ∈ Instant.ofText? row.createdAt, createdAt.lt now = true))
  | .unmigrated .. => inferInstanceAs (Decidable True)

variable {Client : Type}

namespace Tracks

variable {identifiers : Nat → String} {memory : MemoryWorld Client} {world after : DatabaseWorld Client}
  {now : Instant} {record : PolicyRecord} {view other : IntentView}

/-- A stored record that can be read back was created when its row says. -/
theorem created_lt
    (tracks : Tracks identifiers memory world)
    (earlier : world.database.CreatedBefore now)
    (stored : record ∈ memory.store.records)
    (writable : record.IsWritable) :
    record.createdAt.lt now = true := by
  obtain ⟨tables, isMigrated, holds⟩ := tracks.holds
  have whole := (tracks.storable stored).createdAt
  rw [isMigrated] at earlier
  refine earlier _ (holds.records.laidOut.mem stored) record.createdAt ?_
  have read := Instant.ofText?_microsecondText whole.isTime writable.1
  rwa [whole.cut] at read

/-- A view that is stored in strict order is shown as it was answered. -/
theorem shows
    (tracks : Tracks identifiers memory world)
    (contains : memory.store.Contains view)
    (strict : view.policies.Pairwise PolicyRecord.Precedes)
    (like : view.IsLike other)
    (writable : other.IsWritable)
    (viewer : Deployment Client) :
    ∃ shown, ((viewer.databaseService.view other.intent.id).run world).1 = .ok shown ∧
      shown.SameAs other.cut := by
  have sameId : view.intent.id = other.intent.id := by rw [like.intent, IntentRecord.stored]
  obtain ⟨intentWritable, recordsWritable⟩ := like.isWritable writable
  have viewed : (viewer.service.view view.intent.id).run memory = (.ok view, memory) := by
    rw [Deployment.view_run contains.intent, contains.listRecords_eq strict]
  have canFind : ∀ intent ∈ memory.store.findIntent view.intent.id, intent.IsWritable := by
    intro intent found
    cases contains.intent.symm.trans found
    exact intentWritable
  have canRead : ∀ record ∈ memory.store.recordsOf view.intent.id, record.IsWritable :=
    fun record isOurs => recordsWritable record (contains.records.mem_iff.mp isOurs)
  have follows : Follows False (Tracks identifiers) _ ((viewer.service.view view.intent.id).run memory)
      ((viewer.databaseService.view view.intent.id).run world) :=
    tracks.view (Or.inr canFind) (Or.inr canRead)
  rw [viewed] at follows
  generalize ran : (viewer.databaseService.view view.intent.id).run world = outcome at follows
  rw [← sameId, ran]
  cases follows with
  | answered alike =>
      obtain ⟨-, -, rfl, -⟩ := alike
      refine ⟨_, rfl, like.stored.sameAs fun record member => ?_⟩
      obtain ⟨held, isShown, rfl⟩ := List.mem_map.mp member
      exact (tracks.storable (contains.mem isShown)).stored
  | faulted impossible => exact impossible.elim

/-- What is answered at a later time than every record was created is stored in strict order. -/
theorem of_answered
    {request : OperationRequest Client}
    (tracks : Tracks identifiers memory world)
    (fresh : Function.Injective identifiers)
    (sameIdentifiers : request.deployment.identifiers = identifiers)
    (timed : request.operation.time? = some now)
    (isTime : now.IsTime)
    (earlier : world.database.CreatedBefore now.cut)
    (answered : request.inDatabase.run world = (.ok (.view other), after)) :
    ∃ view left, Tracks identifiers left after ∧ left.store.Contains view ∧
      view.policies.Pairwise PolicyRecord.Precedes ∧ view.IsLike other ∧
      (now.cut = now → other.cut = other) := by
  subst sameIdentifiers
  rcases request with ⟨deployment, operation⟩
  rw [OperationRequest.inDatabase] at answered
  have nanFree {view : IntentView} {left : MemoryWorld Client}
      (stillTracks : Tracks deployment.identifiers left after)
      (contains : left.store.Contains view) :
      ∀ record ∈ view.policies, record.policy.IsNaNFree :=
    fun record isShown => (stillTracks.storable (contains.mem isShown)).nanFree
  cases operation with
  | create owner text time =>
      obtain rfl := Option.some.inj timed
      obtain ⟨view, created, sameView⟩ := Action.of_run_map answered
      cases sameView
      have follows := tracks.create fresh isTime (Or.inl trivial) (Or.inl trivial) owner text
      rw [created] at follows
      obtain ⟨view, left, ran, ⟨like, isCut⟩, stillTracks⟩ := follows.of_answered
      have run := deployment.createRun owner text time.cut memory
      rw [ran] at run
      have contains := run.contains fresh tracks.sound
      exact ⟨view, left, stillTracks, contains, run.strict (nanFree stillTracks contains), like,
        isCut⟩
  | update id text time =>
      obtain rfl := Option.some.inj timed
      obtain ⟨view, updated, sameView⟩ := Action.of_run_map answered
      cases sameView
      have follows := tracks.update fresh isTime (Or.inl trivial) (Or.inl trivial) id text
      rw [updated] at follows
      obtain ⟨view, left, ran, ⟨⟨like, isCut⟩, readable⟩, stillTracks⟩ := follows.of_answered
      have run := deployment.updateRun id text time.cut memory
      rw [ran] at run
      have contains := run.contains fresh tracks.sound
      have createdEarlier : ∀ record ∈ memory.store.recordsOf id,
          record.createdAt.lt time.cut = true := fun record isOurs =>
        tracks.created_lt earlier (MemoryStore.mem_recordsOf.mp isOurs).1 (readable record isOurs)
      have strict := run.strict tracks.sound createdEarlier (nanFree stillTracks contains)
      exact ⟨view, left, stillTracks, contains, strict, like, isCut⟩
  | saveRate rate =>
      obtain ⟨_, -, impossible⟩ := Action.of_run_map answered
      cases impossible
  | delete => cases timed
  | list => cases timed
  | view => cases timed
  | translate => cases timed

/-- Whatever requests have led to, a sound world in memory is tracked. -/
theorem exists_tracked
    {requests : List (OperationRequest Client)}
    (tracks : Tracks identifiers memory world)
    (fresh : Function.Injective identifiers)
    (sameIdentifiers : ∀ request ∈ requests, request.deployment.identifiers = identifiers)
    (isTime : ∀ request ∈ requests, ∀ time ∈ request.operation.time?, time.IsTime) :
    ∃ reached, Tracks identifiers reached (resultsOf OperationRequest.inDatabase requests world).2 := by
  induction requests generalizing memory world with
  | nil => exact ⟨memory, tracks⟩
  | cons request requests inductionHypothesis =>
      obtain ⟨sameHere, sameBehind⟩ := List.forall_mem_cons.mp sameIdentifiers
      obtain ⟨timeHere, timeBehind⟩ := List.forall_mem_cons.mp isTime
      obtain ⟨reached, stillTracks⟩ := (tracks.request fresh sameHere timeHere (Or.inl trivial)
        (Or.inl trivial)).exists_related
      exact inductionHypothesis stillTracks sameBehind timeBehind

end Tracks

/--
What is answered is what is shown.  Whatever has been asked of a service over a freshly migrated
database: where an intent is created or updated, viewing it shows it as it was answered, with its
times cut to whole microseconds, and with the same times if the clock shows whole microseconds.
The clock must show a later microsecond than those at which the records in the database were
created, and the years of the times that are answered lie between 0 and 9999.
-/
theorem shown_as_answered
    (identifiers : Nat → String)
    (fresh : Function.Injective identifiers)
    (client : Client)
    (requests : List (OperationRequest Client))
    (request : OperationRequest Client)
    (viewer : Deployment Client)
    (now : Instant)
    (view : IntentView)
    (world after : DatabaseWorld Client)
    (sameIdentifiers : ∀ asked ∈ request :: requests, asked.deployment.identifiers = identifiers)
    (isTime : ∀ asked ∈ request :: requests, ∀ time ∈ asked.operation.time?, time.IsTime)
    (reached : (resultsOf OperationRequest.inDatabase requests ⟨.fresh, client, 0, []⟩).2 = world)
    (timed : request.operation.time? = some now)
    (earlier : world.database.CreatedBefore now.cut)
    (answered : request.inDatabase.run world = (.ok (.view view), after))
    (writable : view.IsWritable) :
    (∃ shown, ((viewer.databaseService.view view.intent.id).run after).1 = .ok shown ∧
      shown.SameAs view.cut) ∧ (now.cut = now → view.cut = view) := by
  obtain ⟨sameHere, sameBefore⟩ := List.forall_mem_cons.mp sameIdentifiers
  obtain ⟨timeHere, timeBefore⟩ := List.forall_mem_cons.mp isTime
  obtain ⟨memory, tracks⟩ :=
    (Tracks.fresh identifiers client 0 [] []).exists_tracked fresh sameBefore timeBefore
  rw [reached] at tracks
  obtain ⟨held, left, stillTracks, contains, strict, like, isCut⟩ :=
    tracks.of_answered fresh sameHere timed (timeHere now timed) earlier answered
  exact ⟨stillTracks.shows contains strict like writable viewer, isCut⟩

/-- The view that is answered, if one is. -/
def viewOf? : Except ServiceError ServiceAnswer → Option IntentView
  | .ok (.view view) => some view
  | _ => none

theorem of_viewOf?
    {result : Except ServiceError ServiceAnswer}
    {view : IntentView}
    (isView : viewOf? result = some view) :
    result = .ok (.view view) := by
  rcases result with error | answer
  · cases isView
  · cases answer with
    | view held => rw [Option.some.inj isView]
    | views => cases isView
    | deleted => cases isView
    | translation => cases isView
    | saved => cases isView

namespace Shelf

/-- An intent is to be created on the first second of all. -/
def createForAnn : OperationRequest Shelf where
  deployment := deployment fun _ => false
  operation := .create "ann" "for ann select bitcoin as default" ⟨1, 0⟩

/-- The intent is to be updated, at a clock that shows nanoseconds. -/
def updateForAnn : OperationRequest Shelf where
  deployment := deployment fun _ => false
  operation := .update "r" "for ann select ethereum as default" ⟨2, 5001⟩

/-- An intent is to be created a nanosecond behind a full hour. -/
def createBehindHour : OperationRequest Shelf where
  deployment := deployment fun _ => false
  operation := .create "ann" "for ann select bitcoin as default" ⟨1772359200, 1⟩

end Shelf

/-- An updated intent is shown as it was answered. -/
theorem shown_as_answered_behind_update :
    let world := (resultsOf OperationRequest.inDatabase [Shelf.createForAnn] ⟨.fresh, {}, 0, []⟩).2
    let outcome := Shelf.updateForAnn.inDatabase.run world
    let service := Shelf.updateForAnn.deployment.databaseService
    ∃ view shown, outcome.1 = .ok (.view view) ∧
      ((service.view view.intent.id).run outcome.2).1 = .ok shown ∧ shown.SameAs view.cut := by
  intro world outcome service
  have isView : (viewOf? outcome.1).isSome = true := by decide +kernel
  have areWritable : ∀ view ∈ viewOf? outcome.1, view.IsWritable := by decide +kernel
  have earlier : world.database.CreatedBefore (⟨2, 5001⟩ : Instant).cut := by decide +kernel
  have sameIdentifiers : ∀ asked ∈ [Shelf.updateForAnn, Shelf.createForAnn],
      asked.deployment.identifiers = Shelf.updateForAnn.deployment.identifiers := by
    intro asked member
    rcases List.mem_pair.mp member with rfl | rfl
    · rfl
    · rfl
  have isTime : ∀ asked ∈ [Shelf.updateForAnn, Shelf.createForAnn],
      ∀ time ∈ asked.operation.time?, time.IsTime := by decide
  have timed : Shelf.updateForAnn.operation.time? = some ⟨2, 5001⟩ := rfl
  have fresh : Function.Injective Shelf.updateForAnn.deployment.identifiers :=
    Shelf.identifiers_injective fun _ => false
  have reached : (resultsOf OperationRequest.inDatabase [Shelf.createForAnn]
      ⟨.fresh, {}, 0, []⟩).2 = world := rfl
  have ran : Shelf.updateForAnn.inDatabase.run world = outcome := rfl
  -- What the runs come to has been looked at; from here on they stay closed.
  clear_value outcome world
  rcases outcome with ⟨result, after⟩
  obtain ⟨view, found⟩ := Option.isSome_iff_exists.mp isView
  obtain rfl := of_viewOf? found
  obtain ⟨⟨shown, isShown, same⟩, -⟩ :=
    shown_as_answered Shelf.updateForAnn.deployment.identifiers fresh ({} : Shelf)
      [Shelf.createForAnn] Shelf.updateForAnn Shelf.updateForAnn.deployment ⟨2, 5001⟩ view world
      after sameIdentifiers isTime reached timed earlier ran (areWritable view found)
  exact ⟨view, shown, rfl, isShown, same⟩

/--
What is answered need not be what is shown.  A nanosecond that the clock showed is not stored,
and a policy that was created in the year 10000 cannot be read back.
-/
theorem shown_not_as_answered :
    (let outcome := Shelf.createBehindHour.inDatabase.run ⟨.fresh, {}, 0, []⟩
      ∃ view shown, outcome.1 = .ok (.view view) ∧
        (Shelf.viewBehind.inDatabase.run outcome.2).1 = .ok (.view shown) ∧ ¬ shown.SameAs view) ∧
      let outcome := Shelf.createAtEnd.inDatabase.run ⟨.fresh, {}, 0, []⟩
      ∃ view error, outcome.1 = .ok (.view view) ∧
        (Shelf.viewBehind.inDatabase.run outcome.2).1 = .error error := by
  constructor
  · intro outcome
    have isView : (viewOf? outcome.1).map (·.intent.createdAt) = some ⟨1772359200, 1⟩ := by
      decide +kernel
    have isShown : (viewOf? (Shelf.viewBehind.inDatabase.run outcome.2).1).map
        (·.intent.createdAt) = some ⟨1772359200, 0⟩ := by decide +kernel
    obtain ⟨view, found, createdAt⟩ := Option.map_eq_some_iff.mp isView
    obtain ⟨shown, shownFound, shownCreatedAt⟩ := Option.map_eq_some_iff.mp isShown
    refine ⟨view, shown, of_viewOf? found, of_viewOf? shownFound, fun same => ?_⟩
    rw [same.intent, createdAt] at shownCreatedAt
    cases shownCreatedAt
  · intro outcome
    have isView : (viewOf? outcome.1).isSome = true := by decide +kernel
    obtain ⟨view, found⟩ := Option.isSome_iff_exists.mp isView
    obtain ⟨-, error, refused⟩ := Shelf.viewed_apart_at_end
    exact ⟨view, error, of_viewOf? found, refused⟩

end IntentPolicy
