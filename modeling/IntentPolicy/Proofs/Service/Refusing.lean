import IntentPolicy.Proofs.Service.Belonging
import IntentPolicy.Proofs.Service.Interchange

namespace IntentPolicy

/-!
# Errors of the domain have no effect

What can be refused for a reason of the domain is refused before anything is done.  An operation
first reads, then refuses or goes on, and whatever fails behind that fails for another reason.
-/

namespace Action

variable {State Error Value Result : Type}

/-- Whatever the action answers, the state is left as it was. -/
def Keeps (action : Action State Error Value) : Prop :=
  ∀ state, (action.run state).2 = state

/-- The action does not fail for a reason of the domain. -/
def NeverRefuses (action : Action State ServiceError Value) : Prop :=
  ∀ state error, (action.run state).1 ≠ .error (.domain error)

/-- Where the action fails for a reason of the domain, the state is left as it was. -/
def RefusesQuietly (action : Action State ServiceError Value) : Prop :=
  ∀ state error, (action.run state).1 = .error (.domain error) → (action.run state).2 = state

variable {action : Action State ServiceError Value}
  {next : Value → Action State ServiceError Result}

theorem Keeps.refusesQuietly
    (keeps : action.Keeps) :
    action.RefusesQuietly :=
  fun state _ _ => keeps state

theorem NeverRefuses.refusesQuietly
    (neverRefuses : action.NeverRefuses) :
    action.RefusesQuietly :=
  fun state error refused => (neverRefuses state error refused).elim

theorem Keeps.bind
    {first : Action State Error Value}
    {second : Value → Action State Error Result}
    (keeps : first.Keeps)
    (nextKeeps : ∀ value, (second value).Keeps) :
    (first >>= second).Keeps := by
  intro state
  have sameState := keeps state
  rcases ran : first.run state with ⟨error | value, reached⟩
  · rw [run_bind_error _ ran]
    rwa [ran] at sameState
  · rw [run_bind_ok _ ran]
    rw [ran] at sameState
    exact sameState ▸ nextKeeps value reached

/-- What is answered behind an action that keeps the state is answered in that state. -/
theorem Keeps.of_run_bind
    {first : Action State Error Value}
    {second : Value → Action State Error Result}
    {state after : State}
    {result : Result}
    (keeps : first.Keeps)
    (ran : (first >>= second).run state = (.ok result, after)) :
    ∃ value, first.run state = (.ok value, state) ∧
      (second value).run state = (.ok result, after) := by
  have sameState := keeps state
  rcases answered : first.run state with ⟨error | value, reached⟩
  · rw [run_bind_error _ answered] at ran
    cases ran
  · rw [run_bind_ok _ answered] at ran
    rw [answered] at sameState
    subst sameState
    exact ⟨value, rfl, ran⟩

theorem NeverRefuses.bind
    (neverRefuses : action.NeverRefuses)
    (nextNeverRefuses : ∀ value, (next value).NeverRefuses) :
    (action >>= next).NeverRefuses := by
  intro state error refused
  rcases ran : action.run state with ⟨failure | value, reached⟩
  · rw [run_bind_error _ ran] at refused
    refine neverRefuses state error ?_
    rw [ran]
    exact congrArg _ (Except.error.inj refused)
  · rw [run_bind_ok _ ran] at refused
    exact nextNeverRefuses value reached error refused

/-- What is refused behind an action that keeps the state is refused in that state. -/
theorem Keeps.bind_refusesQuietly
    (keeps : action.Keeps)
    (nextRefusesQuietly : ∀ value, (next value).RefusesQuietly) :
    (action >>= next).RefusesQuietly := by
  intro state error refused
  have sameState := keeps state
  rcases ran : action.run state with ⟨failure | value, reached⟩
  · rw [run_bind_error _ ran]
    rwa [ran] at sameState
  · rw [run_bind_ok _ ran] at refused ⊢
    rw [ran] at sameState
    subst sameState
    exact nextRefusesQuietly value reached error refused

/-- What is refused in front of an action that never refuses is refused as before. -/
theorem RefusesQuietly.bind_neverRefuses
    (refusesQuietly : action.RefusesQuietly)
    (nextNeverRefuses : ∀ value, (next value).NeverRefuses) :
    (action >>= next).RefusesQuietly := by
  intro state error refused
  rcases ran : action.run state with ⟨failure | value, reached⟩
  · rw [run_bind_error _ ran] at refused ⊢
    have quiet := refusesQuietly state error
    rw [ran] at quiet
    exact quiet (congrArg _ (Except.error.inj refused))
  · rw [run_bind_ok _ ran] at refused
    exact (nextNeverRefuses value reached error refused).elim

theorem keeps_pure
    (value : Value) :
    (pure value : Action State Error Value).Keeps :=
  fun _ => rfl

theorem keeps_throw
    (error : Error) :
    (throw error : Action State Error Value).Keeps :=
  fun _ => rfl

theorem neverRefuses_pure
    (value : Value) :
    (pure value : Action State ServiceError Value).NeverRefuses :=
  fun _ _ refused => nomatch refused

/-- A computation that cannot fail does not refuse. -/
theorem neverRefuses_lift
    (computation : StateM State Value) :
    (liftM computation : Action State ServiceError Value).NeverRefuses :=
  fun _ _ refused => nomatch refused

/-- A failure of the store is none of the domain. -/
theorem neverRefuses_persisted
    (action : Action State StoreError Value) :
    (Service.persisted action).NeverRefuses := by
  intro state error refused
  rw [Service.persisted, run_adapt] at refused
  rcases ran : action.run state with ⟨failure | value, reached⟩
  · rw [ran] at refused
    cases refused
  · rw [ran] at refused
    cases refused

theorem neverRefuses_mapM
    {Item : Type}
    {visit : Item → Action State ServiceError Value}
    (neverRefuses : ∀ item, (visit item).NeverRefuses)
    (items : List Item) :
    (items.mapM visit).NeverRefuses := by
  induction items with
  | nil => exact neverRefuses_pure []
  | cons item items inductionHypothesis =>
      rw [List.mapM_cons]
      exact (neverRefuses item).bind fun _ => inductionHypothesis.bind fun _ => neverRefuses_pure _

theorem keeps_persisted
    {action : Action State StoreError Value}
    (keeps : action.Keeps) :
    (Service.persisted action).Keeps :=
  keeps

/-- What is answered from a part of a state leaves the whole as it was. -/
theorem keeps_answering
    {Whole Piece : Type}
    {part : Part Whole Piece}
    (lawful : ∀ whole, part.set (part.get whole) whole = whole)
    (view : Piece → Except Error Value) :
    ((answering view).within part).Keeps :=
  lawful

end Action

/-- Looking for an intent and for rates leaves the state as it was. -/
structure Repositories.ReadsOnly {State : Type} (repositories : Repositories State) : Prop where
  findIntent : ∀ id, (repositories.findIntent id).Keeps
  listRates : repositories.listRates.Keeps

namespace Service

variable {State : Type} {service : Service State}

/-- Translating only reads the rates. -/
theorem keeps_translate
    (reads : service.repositories.ReadsOnly)
    (text : String) :
    (service.translate text).Keeps := by
  have ratesKept : (persisted service.repositories.rateTable).Keeps :=
    Action.keeps_persisted (reads.listRates.bind fun _ => Action.keeps_pure _)
  refine ratesKept.bind fun rates => ?_
  cases (⟨rates, service.baselines⟩ : Translator).refine text with
  | ok translation => exact Action.keeps_pure translation
  | error error => exact Action.keeps_throw _

theorem keeps_find
    (reads : service.repositories.ReadsOnly)
    (id : String) :
    (service.find id).Keeps := by
  refine (Action.keeps_persisted (reads.findIntent id)).bind fun found => ?_
  cases found with
  | some intent => exact Action.keeps_pure intent
  | none => exact Action.keeps_throw _

/-- An execution that was interrupted fails for the call that has failed. -/
theorem neverRefuses_settle
    (service : Service State)
    (execution : Execution) :
    (service.settle execution).NeverRefuses := by
  refine (Action.neverRefuses_persisted _).bind fun _ => ?_
  cases execution.interruption with
  | none => exact Action.neverRefuses_pure _
  | some interruption => exact fun _ _ refused => nomatch refused

theorem create_refusesQuietly
    (reads : service.repositories.ReadsOnly)
    (owner text : String)
    (now : Instant) :
    (service.create owner text now).RefusesQuietly := by
  rw [create]
  split
  · exact (Action.keeps_throw _).refusesQuietly
  · refine (keeps_translate reads text).bind_refusesQuietly ?_
    rintro ⟨_, policies⟩
    -- From here on something is done, and nothing is refused.
    refine Action.NeverRefuses.refusesQuietly ?_
    refine (Action.neverRefuses_lift _).bind fun id => ?_
    refine (Action.neverRefuses_lift _).bind fun execution => ?_
    have ending : (do
        let records ← service.settle execution
        service.report id (.intentCreated records.length)
        return ⟨⟨id, trimmed owner, trimmed text, now, now⟩, records⟩ :
          Action State ServiceError IntentView).NeverRefuses :=
      (service.neverRefuses_settle execution).bind fun records =>
        (Action.neverRefuses_lift _).bind fun _ => Action.neverRefuses_pure _
    split
    · exact (Action.neverRefuses_persisted _).bind fun _ => ending
    · exact ending

theorem update_refusesQuietly
    (reads : service.repositories.ReadsOnly)
    (id text : String)
    (now : Instant) :
    (service.update id text now).RefusesQuietly := by
  refine (keeps_find reads id).bind_refusesQuietly fun intent => ?_
  refine (keeps_translate reads text).bind_refusesQuietly ?_
  rintro ⟨_, policies⟩
  refine Action.NeverRefuses.refusesQuietly ?_
  refine (Action.neverRefuses_persisted _).bind fun held => ?_
  refine (Action.neverRefuses_lift _).bind fun execution => ?_
  refine (service.neverRefuses_settle execution).bind fun records => ?_
  refine (Action.neverRefuses_persisted _).bind fun _ => ?_
  exact (Action.neverRefuses_lift _).bind fun _ => Action.neverRefuses_pure _

theorem delete_refusesQuietly
    (reads : service.repositories.ReadsOnly)
    (id : String) :
    (service.delete id).RefusesQuietly := by
  refine (keeps_find reads id).bind_refusesQuietly fun intent => ?_
  refine Action.NeverRefuses.refusesQuietly ?_
  refine (Action.neverRefuses_persisted _).bind fun held => ?_
  refine (Action.neverRefuses_lift _).bind fun execution => ?_
  have ending : (do
      let _ ← persisted (service.repositories.deleteRecords id)
      let _ ← persisted (service.repositories.deleteIntent id)
      service.report id (.intentDeleted execution.applied.length)
      return execution.applied.length : Action State ServiceError Nat).NeverRefuses :=
    (Action.neverRefuses_persisted _).bind fun _ => (Action.neverRefuses_persisted _).bind fun _ =>
      (Action.neverRefuses_lift _).bind fun _ => Action.neverRefuses_pure _
  split
  · exact (service.neverRefuses_settle execution).bind fun _ => ending
  · exact ending

end Service

/-- Whatever a service is asked for, what it refuses for a reason of the domain has no effect. -/
theorem ServiceOperation.refusesQuietly
    {State : Type}
    {service : Service State}
    (reads : service.repositories.ReadsOnly)
    (operation : ServiceOperation) :
    (operation.perform service).RefusesQuietly := by
  cases operation with
  | create owner text now =>
      exact (Service.create_refusesQuietly reads owner text now).bind_neverRefuses fun _ =>
        Action.neverRefuses_pure _
  | update id text now =>
      exact (Service.update_refusesQuietly reads id text now).bind_neverRefuses fun _ =>
        Action.neverRefuses_pure _
  | delete id =>
      exact (Service.delete_refusesQuietly reads id).bind_neverRefuses fun _ =>
        Action.neverRefuses_pure _
  | list owner =>
      refine Action.NeverRefuses.refusesQuietly (Action.NeverRefuses.bind ?_ fun _ =>
        Action.neverRefuses_pure _)
      refine (Action.neverRefuses_persisted _).bind fun intents => ?_
      exact Action.neverRefuses_mapM (fun _ =>
        (Action.neverRefuses_persisted _).bind fun _ => Action.neverRefuses_pure _) intents
  | view id =>
      exact ((Service.keeps_find reads id).bind_refusesQuietly fun intent =>
        ((Action.neverRefuses_persisted _).bind fun _ => Action.neverRefuses_pure _).refusesQuietly
        ).bind_neverRefuses fun _ => Action.neverRefuses_pure _
  | translate text =>
      exact (Service.keeps_translate reads text).refusesQuietly.bind_neverRefuses fun _ =>
        Action.neverRefuses_pure _
  | saveRate rate =>
      exact ((Action.neverRefuses_persisted _).bind fun _ =>
        Action.neverRefuses_pure _).refusesQuietly

theorem MemoryStore.readsOnly
    {Whole : Type}
    {part : Part Whole MemoryStore}
    (lawful : ∀ whole, part.set (part.get whole) whole = whole) :
    (MemoryStore.repositories.within part).ReadsOnly where
  findIntent _ := Action.keeps_answering lawful _
  listRates := Action.keeps_answering lawful _

theorem Database.readsOnly
    {Whole : Type}
    {part : Part Whole Database}
    (lawful : ∀ whole, part.set (part.get whole) whole = whole) :
    (Database.repositories.within part).ReadsOnly where
  findIntent _ := Action.keeps_answering lawful _
  listRates := Action.keeps_answering lawful _

/--
Errors of the domain have no effect.  Whatever is asked for, in memory or over a database, and in
whichever state: what fails for a reason of the domain leaves the world as it was, with all that
is stored, with the calls to enforcement that are on record, and with the events.
-/
theorem domain_errors_have_no_effect
    {Client : Type}
    (deployment : Deployment Client)
    (operation : ServiceOperation)
    (error : DomainError) :
    (∀ before after : MemoryWorld (Recorded Client),
        (operation.perform deployment.recorded.service).run before =
          (.error (.domain error), after) →
        after = before) ∧
      ∀ before after : DatabaseWorld (Recorded Client),
        (operation.perform deployment.recorded.databaseService).run before =
          (.error (.domain error), after) →
        after = before := by
  have memoryReads : deployment.recorded.service.repositories.ReadsOnly :=
    MemoryStore.readsOnly fun _ => rfl
  have databaseReads : deployment.recorded.databaseService.repositories.ReadsOnly :=
    Database.readsOnly fun _ => rfl
  constructor
  · intro before after refused
    have quiet := operation.refusesQuietly memoryReads before error (congrArg Prod.fst refused)
    rwa [refused] at quiet
  · intro before after refused
    have quiet := operation.refusesQuietly databaseReads before error (congrArg Prod.fst refused)
    rwa [refused] at quiet

/-- A stored intent is not updated by what is no sentence, nor is one stored without an owner. -/
theorem domain_errors_have_no_effect_on_shelf :
    let deployment := (Shelf.deployment fun _ => false).recorded
    let start : MemoryWorld (Recorded Shelf) := ⟨{}, ⟨{}, []⟩, 0, []⟩
    let before := deployment.serve start (.create "ann" "for ann select bitcoin as default" ⟨1, 0⟩)
    let updated := (deployment.service.update "r" "for a select the slowest blockchain" ⟨2, 0⟩).run
      before
    let empty : DatabaseWorld (Recorded Shelf) := ⟨.fresh, ⟨{}, []⟩, 0, []⟩
    let created := (deployment.databaseService.create " " "for ann select bitcoin as default"
      ⟨1, 0⟩).run empty
    updated.1 = .error (.domain (.refinement (.sentence (.transition .profile 4 "slowest")))) ∧
      before.client.log.length = 1 ∧ updated.2 = before ∧ created.2 = empty := by
  intro deployment start before updated empty created
  have updateRefused : updated.1 =
      .error (.domain (.refinement (.sentence (.transition .profile 4 "slowest")))) := by
    decide +kernel
  have createRefused : created.1 =
      .error (.domain (.invariantViolation "intent owner must not be empty")) := by decide +kernel
  let update : ServiceOperation := .update "r" "for a select the slowest blockchain" ⟨2, 0⟩
  let create : ServiceOperation := .create " " "for ann select bitcoin as default" ⟨1, 0⟩
  refine ⟨updateRefused, by decide +kernel, ?_, ?_⟩
  · exact (domain_errors_have_no_effect _ update _).1 before updated.2
      (Action.run_bind_error _ (Prod.ext updateRefused rfl))
  · exact (domain_errors_have_no_effect _ create _).2 empty created.2
      (Action.run_bind_error _ (Prod.ext createRefused rfl))

end IntentPolicy
