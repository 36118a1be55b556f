import IntentPolicy.Proofs.Service.DatabaseOperations
import IntentPolicy.Proofs.Service.Viewing

namespace IntentPolicy

/-!
# The stores can be exchanged

Asked for the same, one operation after the other, a service over a freshly migrated database
answers what a service over the store in memory answers, whatever enforcement does.  Clocks show
whole microseconds, and no time that has been stored has left the years that are written with
four digits.
-/

/-- What can be asked of a service, and rates that are stored between the operations. -/
inductive ServiceOperation where
  | create (owner text : String) (now : Instant)
  | update (id text : String) (now : Instant)
  | delete (id : String)
  | list (owner : String)
  | view (id : String)
  | translate (text : String)
  | saveRate (rate : ConversionRate)

/-- What an operation answers. -/
inductive ServiceAnswer where
  | view (view : IntentView)
  | views (views : List IntentView)
  | deleted (policies : Nat)
  | translation (intent : Intent) (policies : List Policy)
  | saved

namespace ServiceOperation

/-- The time that an operation is given. -/
def time? : ServiceOperation → Option Instant
  | .create _ _ now => some now
  | .update _ _ now => some now
  | .saveRate rate => some rate.updatedAt
  | _ => none

/-- The operation at a time that is cut to whole microseconds. -/
def cut : ServiceOperation → ServiceOperation
  | .create owner text now => .create owner text now.cut
  | .update id text now => .update id text now.cut
  | .saveRate rate => .saveRate { rate with updatedAt := rate.updatedAt.cut }
  | operation => operation

theorem cut_eq
    {operation : ServiceOperation}
    (whole : ∀ time ∈ operation.time?, time.cut = time) :
    operation.cut = operation := by
  cases operation with
  | create owner text now => rw [cut, whole now rfl]
  | update id text now => rw [cut, whole now rfl]
  | saveRate rate =>
      have sameTime := whole rate.updatedAt rfl
      rw [cut, sameTime]
  | delete => rfl
  | list => rfl
  | view => rfl
  | translate => rfl

/-- What a service answers to an operation. -/
def perform {State : Type} (service : Service State) :
    ServiceOperation → Action State ServiceError ServiceAnswer
  | .create owner text now => do return .view (← service.create owner text now)
  | .update id text now => do return .view (← service.update id text now)
  | .delete id => do return .deleted (← service.delete id)
  | .list owner => do return .views (← service.list owner)
  | .view id => do return .view (← service.view id)
  | .translate text => do
      let (intent, policies) ← service.translate text
      return .translation intent policies
  | .saveRate rate => do
      Service.persisted (service.repositories.saveRate rate)
      return .saved

end ServiceOperation

/-- Answers that compare equal. -/
inductive ServiceAnswer.SameAs : ServiceAnswer → ServiceAnswer → Prop
  | view {left right : IntentView} (same : left.SameAs right) : SameAs (.view left) (.view right)
  | views {left right : List IntentView} (same : List.Forall₂ IntentView.SameAs left right) :
      SameAs (.views left) (.views right)
  | deleted (policies : Nat) : SameAs (.deleted policies) (.deleted policies)
  | translation (intent : Intent) (policies : List Policy) :
      SameAs (.translation intent policies) (.translation intent policies)
  | saved : SameAs .saved .saved

/-- Results that compare equal: answers that do, or one error. -/
inductive SameResult : Except ServiceError ServiceAnswer → Except ServiceError ServiceAnswer → Prop
  | answered {left right : ServiceAnswer} (same : left.SameAs right) :
      SameResult (.ok left) (.ok right)
  | failed (error : ServiceError) : SameResult (.error error) (.error error)

/-- An operation, with what the service is set up with when it is asked for. -/
structure OperationRequest (Client : Type) where
  deployment : Deployment Client
  operation : ServiceOperation

variable {Client : Type}

namespace OperationRequest

/-- The operation of the service over the store in memory. -/
def inMemory (request : OperationRequest Client) :
    Action (MemoryWorld Client) ServiceError ServiceAnswer :=
  request.operation.perform request.deployment.service

/-- The operation of the service over a database. -/
def inDatabase (request : OperationRequest Client) :
    Action (DatabaseWorld Client) ServiceError ServiceAnswer :=
  request.operation.perform request.deployment.databaseService

end OperationRequest

/-- The results of requests that are made one after the other, and the state behind them. -/
def resultsOf {State : Type} (ask : OperationRequest Client → Action State ServiceError ServiceAnswer) :
    List (OperationRequest Client) → State → List (Except ServiceError ServiceAnswer) × State
  | [], state => ([], state)
  | request :: requests, state =>
      let (result, reached) := (ask request).run state
      let (results, last) := resultsOf ask requests reached
      (result :: results, last)

theorem resultsOf_pair
    {State : Type}
    (ask : OperationRequest Client → Action State ServiceError ServiceAnswer)
    (first second : OperationRequest Client)
    (state : State) :
    (resultsOf ask [first, second] state).1 =
      [((ask first).run state).1, ((ask second).run ((ask first).run state).2).1] :=
  rfl

/-- Views that are stored alike compare equal in whole microseconds. -/
theorem IntentView.IsLike.sameAs
    {left right : IntentView}
    (like : left.IsLike right)
    (storable : ∀ record ∈ left.policies, record.IsStorable) :
    left.SameAs right.cut := by
  refine ⟨like.intent, List.forall₂_map_right_iff.mpr ?_⟩
  have both := (List.forall₂_and_left _ _).mpr ⟨storable, like.policies⟩
  exact both.imp fun _ _ same => same.1.sameAs same.2

namespace Tracks

variable {identifiers : Nat → String} {memory : MemoryWorld Client} {world : DatabaseWorld Client}
  {faults : Prop} {deployment : Deployment Client} {now : Instant}

/-- A view of what is stored compares equal to one that is stored alike. -/
theorem sameAs_of_contains
    {view other : IntentView}
    (tracks : Tracks identifiers memory world)
    (contains : memory.store.Contains view)
    (like : view.IsLike other) :
    view.SameAs other.cut :=
  like.sameAs fun _ isShown => tracks.storable (contains.mem isShown)

/-- Every operation over a database is answered as in memory, where it does not go wrong. -/
theorem perform
    (tracks : Tracks deployment.identifiers memory world)
    (fresh : Function.Injective deployment.identifiers)
    (operation : ServiceOperation)
    (isTime : ∀ time ∈ operation.time?, time.IsTime)
    (canRead : faults ∨ memory.store.IsWritable)
    (nanFree : faults ∨ deployment.baselines.IsNaNFree) :
    Follows faults (Tracks deployment.identifiers)
      (fun answer other _ => (∀ time ∈ operation.time?, time.cut = time) → answer.SameAs other)
      ((operation.cut.perform deployment.service).run memory)
      ((operation.perform deployment.databaseService).run world) := by
  cases operation with
  | create owner text now =>
      refine .bind (tracks.create fresh (isTime now rfl) canRead nanFree owner text).noting ?_
      rintro view other left reached ⟨⟨like, isCut⟩, ran⟩ stillTracks
      refine .pure (fun whole => .view ?_) stillTracks
      have run := deployment.createRun owner text now.cut memory
      rw [ran] at run
      rw [← isCut (whole now rfl)]
      exact stillTracks.sameAs_of_contains (run.contains fresh tracks.sound) like
  | update id text now =>
      refine .bind (tracks.update fresh (isTime now rfl) canRead nanFree id text).noting ?_
      rintro view other left reached ⟨⟨⟨like, isCut⟩, -⟩, ran⟩ stillTracks
      refine .pure (fun whole => .view ?_) stillTracks
      have run := deployment.updateRun id text now.cut memory
      rw [ran] at run
      rw [← isCut (whole now rfl)]
      exact stillTracks.sameAs_of_contains (run.contains fresh tracks.sound) like
  | delete id =>
      refine .bind (tracks.delete fresh canRead id) ?_
      rintro policies _ left reached rfl stillTracks
      exact .pure (fun _ => .deleted policies) stillTracks
  | list owner =>
      refine .bind (tracks.list canRead owner) ?_
      intro views others left reached same stillTracks
      exact .pure (fun _ => .views same) stillTracks
  | view id =>
      refine .bind (tracks.view (canRead.imp_right (·.findIntent))
        (canRead.imp_right (·.recordsOf))) ?_
      rintro view _ _ reached ⟨found, listed, rfl, rfl⟩ stillTracks
      refine .pure (fun _ => .view ⟨?_, ?_⟩) stillTracks
      · exact (tracks.storable_of_found found).stored_eq.symm
      · rw [IntentView.stored, ← listed]
        exact tracks.sameAs_listRecords id
  | translate text =>
      refine .bind (tracks.translate (canRead.imp_right (·.rates)) text) ?_
      rintro ⟨intent, policies⟩ _ _ reached ⟨-, rfl, rfl⟩ stillTracks
      exact .pure (fun _ => .translation intent policies) stillTracks
  | saveRate rate =>
      refine .bind (tracks.saveRate (isTime rate.updatedAt rfl)) ?_
      intro _ _ left reached _ stillTracks
      exact .pure (fun _ => .saved) stillTracks

theorem request
    {request : OperationRequest Client}
    (tracks : Tracks identifiers memory world)
    (fresh : Function.Injective identifiers)
    (sameIdentifiers : request.deployment.identifiers = identifiers)
    (isTime : ∀ time ∈ request.operation.time?, time.IsTime)
    (canRead : faults ∨ memory.store.IsWritable)
    (nanFree : faults ∨ request.deployment.baselines.IsNaNFree) :
    Follows faults (Tracks identifiers)
      (fun answer other _ => (∀ time ∈ request.operation.time?, time.cut = time) →
        answer.SameAs other)
      ((request.operation.cut.perform request.deployment.service).run memory)
      (request.inDatabase.run world) := by
  subst sameIdentifiers
  exact tracks.perform fresh request.operation isTime canRead nanFree

/-- Where something that is stored cannot be read back, viewing it tells the stores apart. -/
theorem viewed_apart
    {id : String}
    {held : IntentRecord}
    (tracks : Tracks identifiers memory world)
    (found : memory.store.findIntent id = some held)
    (writable : held.IsWritable)
    (notWritable : ¬ ∀ record ∈ memory.store.recordsOf id, record.IsWritable)
    (deployment : Deployment Client) :
    (∃ answer, ((⟨deployment, .view id⟩ : OperationRequest Client).inMemory.run memory).1 =
        .ok answer) ∧
      ∃ error, ((⟨deployment, .view id⟩ : OperationRequest Client).inDatabase.run world).1 =
        .error error := by
  constructor
  · refine ⟨.view ⟨held, memory.store.listRecords id⟩, ?_⟩
    rw [OperationRequest.inMemory, ServiceOperation.perform,
      Action.run_bind_ok _ (Deployment.view_run found)]
    rfl
  · obtain ⟨error, failed⟩ := tracks.view_of_not_writable found writable notWritable
    have ran : (deployment.databaseService.view id).run world =
        (.error error, ((deployment.databaseService.view id).run world).2) :=
      Prod.ext failed rfl
    refine ⟨error, ?_⟩
    rw [OperationRequest.inDatabase, ServiceOperation.perform, Action.run_bind_error _ ran]

/-- Requests that are made one after the other are answered alike. -/
theorem results
    {requests : List (OperationRequest Client)}
    (tracks : Tracks identifiers memory world)
    (fresh : Function.Injective identifiers)
    (sameIdentifiers : ∀ request ∈ requests, request.deployment.identifiers = identifiers)
    (whole : ∀ request ∈ requests, ∀ time ∈ request.operation.time?, time.IsWhole)
    (nanFree : ∀ request ∈ requests, request.deployment.baselines.IsNaNFree)
    (readable : ∀ count < requests.length,
      (resultsOf OperationRequest.inMemory (requests.take count) memory).2.store.IsWritable) :
    List.Forall₂ SameResult (resultsOf OperationRequest.inMemory requests memory).1
      (resultsOf OperationRequest.inDatabase requests world).1 := by
  induction requests generalizing memory world with
  | nil => exact .nil
  | cons request requests inductionHypothesis =>
      obtain ⟨sameHere, sameBehind⟩ := List.forall_mem_cons.mp sameIdentifiers
      obtain ⟨wholeHere, wholeBehind⟩ := List.forall_mem_cons.mp whole
      obtain ⟨nanFreeHere, nanFreeBehind⟩ := List.forall_mem_cons.mp nanFree
      have readableHere : memory.store.IsWritable := readable 0 (Nat.succ_pos _)
      have isCut : ∀ time ∈ request.operation.time?, time.cut = time :=
        fun time given => (wholeHere time given).cut
      have follows : Follows False (Tracks identifiers) _ (_ : Except ServiceError _ × _) _ :=
        tracks.request fresh sameHere (fun time given => (wholeHere time given).isTime)
          (Or.inr readableHere) (Or.inr nanFreeHere)
      rw [ServiceOperation.cut_eq isCut, ← OperationRequest.inMemory] at follows
      rw [resultsOf, resultsOf]
      rcases ran : request.inMemory.run memory with ⟨result, reached⟩
      rcases otherRan : request.inDatabase.run world with ⟨otherResult, otherReached⟩
      rw [ran, otherRan] at follows
      have readableBehind : ∀ count < requests.length,
          (resultsOf OperationRequest.inMemory (requests.take count) reached).2.store.IsWritable := by
        intro count bound
        have readableNext := readable (count + 1) (Nat.succ_lt_succ bound)
        rw [List.take_succ_cons, resultsOf, ran] at readableNext
        exact readableNext
      cases follows with
      | answered same stillTracks =>
          exact .cons (.answered (same isCut))
            (inductionHypothesis stillTracks sameBehind wholeBehind nanFreeBehind readableBehind)
      | failed stillTracks =>
          exact .cons (.failed _)
            (inductionHypothesis stillTracks sameBehind wholeBehind nanFreeBehind readableBehind)
      | faulted impossible => exact impossible.elim

end Tracks

/--
The stores can be exchanged.  Whatever is asked, one operation after the other, and whatever
enforcement does: a service over a freshly migrated database answers what a service over an empty
store in memory answers, with the same values, orders and errors.  Identifiers are not given
twice, clocks show whole microseconds, baselines are no NaNs, and before every operation the
times that are stored in memory lie in the years 0 to 9999.
-/
theorem stores_can_be_exchanged
    {Client : Type}
    (identifiers : Nat → String)
    (fresh : Function.Injective identifiers)
    (client : Client)
    (requests : List (OperationRequest Client))
    (sameIdentifiers : ∀ request ∈ requests, request.deployment.identifiers = identifiers)
    (whole : ∀ request ∈ requests, ∀ time ∈ request.operation.time?, time.IsWhole)
    (nanFree : ∀ request ∈ requests, request.deployment.baselines.IsNaNFree)
    (readable : ∀ count < requests.length,
      (resultsOf OperationRequest.inMemory (requests.take count)
        ⟨{}, client, 0, []⟩).2.store.IsWritable) :
    List.Forall₂ SameResult
      (resultsOf OperationRequest.inMemory requests ⟨{}, client, 0, []⟩).1
      (resultsOf OperationRequest.inDatabase requests ⟨.fresh, client, 0, []⟩).1 :=
  (Tracks.fresh identifiers client 0 [] []).results fresh sameIdentifiers whole nanFree readable

namespace Shelf

/-- Requests about one intent, behind a rate that is stored; the second call is refused. -/
def requestsForAnn : List (OperationRequest Shelf) :=
  [.saveRate ⟨.eur, .one, ⟨0, 0⟩⟩,
    .create "ann" "for ann select bitcoin as default" ⟨1, 0⟩,
    .update "r" "for ann select ethereum as default" ⟨2, 0⟩,
    .update "r" "for ann select ethereum as default" ⟨3, 5000⟩,
    .view "r"].map fun operation => ⟨deployment (· == 1), operation⟩

/-- Two policies are to be made for an intent in the last microsecond of the year 9999. -/
def createAtEnd : OperationRequest Shelf where
  deployment := deployment fun _ => false
  operation :=
    .create "ann" "for ann, bob select bitcoin as default" ⟨253402300799, 999999000⟩

/-- The intent that has been created is to be viewed. -/
def viewBehind : OperationRequest Shelf where
  deployment := deployment fun _ => false
  operation := .view "r"

/-- In memory both policies are found; the second of them cannot be read back from its row. -/
theorem viewed_apart_at_end :
    (∃ answer, (viewBehind.inMemory.run (createAtEnd.inMemory.run ⟨{}, {}, 0, []⟩).2).1 =
        .ok answer) ∧
      ∃ error, (viewBehind.inDatabase.run (createAtEnd.inDatabase.run ⟨.fresh, {}, 0, []⟩).2).1 =
        .error error := by
  have created : Follows False (Tracks createAtEnd.deployment.identifiers) _
      (createAtEnd.inMemory.run ⟨{}, {}, 0, []⟩)
      (createAtEnd.inDatabase.run ⟨.fresh, {}, 0, []⟩) :=
    (Tracks.fresh _ _ _ _ _).request (identifiers_injective _) rfl (by decide) (Or.inr .empty)
      (Or.inr ⟨rfl, rfl⟩)
  have isFound : ((createAtEnd.inMemory.run ⟨{}, {}, 0, []⟩).2.store.findIntent "r").isSome =
      true := by decide +kernel
  have canFind : ∀ held ∈ (createAtEnd.inMemory.run ⟨{}, {}, 0, []⟩).2.store.findIntent "r",
      held.IsWritable := by decide +kernel
  have notWritable :
      ¬ ∀ record ∈ (createAtEnd.inMemory.run ⟨{}, {}, 0, []⟩).2.store.recordsOf "r",
        record.IsWritable := by decide +kernel
  obtain ⟨held, found⟩ := Option.isSome_iff_exists.mp isFound
  exact created.isRelated.viewed_apart found (canFind held found) notWritable
    (deployment fun _ => false)

end Shelf

/-- A refused update is answered with the same error, and what follows it with equal views. -/
theorem stores_can_be_exchanged_behind_refused_update :
    let inMemory := resultsOf OperationRequest.inMemory Shelf.requestsForAnn ⟨{}, {}, 0, []⟩
    let inDatabase := resultsOf OperationRequest.inDatabase Shelf.requestsForAnn ⟨.fresh, {}, 0, []⟩
    inMemory.1.map (·.isOk) = [true, true, false, true, true] ∧
      List.Forall₂ SameResult inMemory.1 inDatabase.1 := by
  intro inMemory inDatabase
  let identifiers := (Shelf.deployment (· == 1)).identifiers
  have sameIdentifiers : ∀ request ∈ Shelf.requestsForAnn,
      request.deployment.identifiers = identifiers := by
    intro request member
    obtain ⟨operation, -, rfl⟩ := List.mem_map.mp member
    rfl
  have nanFree : ∀ request ∈ Shelf.requestsForAnn, request.deployment.baselines.IsNaNFree := by
    intro request member
    obtain ⟨operation, -, rfl⟩ := List.mem_map.mp member
    exact ⟨rfl, rfl⟩
  have whole : ∀ request ∈ Shelf.requestsForAnn, ∀ time ∈ request.operation.time?,
      time.IsWhole := by decide
  have readable : ∀ count < Shelf.requestsForAnn.length,
      (resultsOf OperationRequest.inMemory (Shelf.requestsForAnn.take count)
        ⟨{}, {}, 0, []⟩).2.store.IsWritable := by decide +kernel
  have answered : inMemory.1.map (·.isOk) = [true, true, false, true, true] := by decide +kernel
  have exchanged := stores_can_be_exchanged identifiers (Shelf.identifiers_injective (· == 1)) {}
    Shelf.requestsForAnn sameIdentifiers whole nanFree readable
  exact ⟨answered, exchanged⟩

/--
At the end of the year 9999 the stores cannot be exchanged.  The second of two policies is
created a microsecond later than the clock shows, in a year that a database cannot read back.
-/
theorem stores_differ_at_end_of_years :
    let requests := [Shelf.createAtEnd, Shelf.viewBehind]
    (∀ request ∈ requests, ∀ time ∈ request.operation.time?, time.IsWhole ∧ time.IsWritable) ∧
      (∀ request ∈ requests, request.deployment.baselines.IsNaNFree) ∧
      ¬ List.Forall₂ SameResult
        (resultsOf OperationRequest.inMemory requests ⟨{}, {}, 0, []⟩).1
        (resultsOf OperationRequest.inDatabase requests ⟨.fresh, {}, 0, []⟩).1 := by
  intro requests
  have whole : ∀ request ∈ requests, ∀ time ∈ request.operation.time?,
      time.IsWhole ∧ time.IsWritable := by decide +kernel
  have nanFree : ∀ request ∈ requests, request.deployment.baselines.IsNaNFree := by
    intro request member
    rcases List.mem_pair.mp member with rfl | rfl
    · exact ⟨rfl, rfl⟩
    · exact ⟨rfl, rfl⟩
  obtain ⟨⟨answer, answered⟩, error, refused⟩ := Shelf.viewed_apart_at_end
  refine ⟨whole, nanFree, fun same => ?_⟩
  rw [resultsOf_pair, resultsOf_pair, answered, refused] at same
  cases (List.forall₂_cons.mp (List.forall₂_cons.mp same).2).1

end IntentPolicy
