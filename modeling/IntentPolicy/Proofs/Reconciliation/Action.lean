import IntentPolicy.Store.Repositories

namespace IntentPolicy.Action

/-!
# Running actions

What an action does to a state, by how it is put together.
-/

variable {State Error Value Result : Type} {state after : State}
  {action : Action State Error Value}

/-- What follows an action is run in the state that the action has reached. -/
theorem run_bind
    (next : Value → Action State Error Result) :
    (action >>= next).run state =
      match action.run state with
      | (.ok value, reached) => (next value).run reached
      | (.error error, reached) => (.error error, reached) := by
  have ranInState : StateT.run action.run state = pure (action.run state) := rfl
  change StateT.run (ExceptT.run (action >>= next)) state = _
  rw [ExceptT.run_bind, StateT.run_bind, ranInState, pure_bind]
  rcases action.run state with ⟨error | value, reached⟩
  · rfl
  · rfl

theorem run_bind_ok
    {value : Value}
    (next : Value → Action State Error Result)
    (ran : action.run state = (.ok value, after)) :
    (action >>= next).run state = (next value).run after := by
  rw [run_bind, ran]

theorem run_bind_error
    {error : Error}
    (next : Value → Action State Error Result)
    (ran : action.run state = (.error error, after)) :
    (action >>= next).run state = (.error error, after) := by
  rw [run_bind, ran]

/-- What is answered behind an action is made of what the action has answered. -/
theorem of_run_map
    {wrap : Value → Result}
    {result : Result}
    (ran : (do return wrap (← action) : Action State Error Result).run state = (.ok result, after)) :
    ∃ value, action.run state = (.ok value, after) ∧ wrap value = result := by
  rcases inner : action.run state with ⟨error | value, reached⟩
  · rw [run_bind_error _ inner] at ran
    cases ran
  · rw [run_bind_ok _ inner] at ran
    cases ran
    exact ⟨value, rfl, rfl⟩

/-- A handler is run in the state in which the action has failed. -/
theorem run_tryCatch
    (handler : Error → Action State Error Value) :
    (tryCatch action handler).run state =
      match action.run state with
      | (.ok value, reached) => (.ok value, reached)
      | (.error error, reached) => (handler error).run reached := by
  have ranInState : StateT.run action.run state = pure (action.run state) := rfl
  change StateT.run (ExceptT.run (tryCatch action handler)) state = _
  rw [ExceptT.run_tryCatch, StateT.run_bind, ranInState, pure_bind]
  rcases action.run state with ⟨error | value, reached⟩
  · rfl
  · rfl

theorem run_tryCatch_ok
    {value : Value}
    (handler : Error → Action State Error Value)
    (ran : action.run state = (.ok value, after)) :
    (tryCatch action handler).run state = (.ok value, after) := by
  rw [run_tryCatch, ran]

theorem run_tryCatch_error
    {error : Error}
    (handler : Error → Action State Error Value)
    (ran : action.run state = (.error error, after)) :
    (tryCatch action handler).run state = (handler error).run after := by
  rw [run_tryCatch, ran]

/-- A computation that cannot fail hands its value and its state on. -/
theorem bind_apply
    (computation : StateM State Value)
    (next : Value → StateM State Result) :
    (computation >>= next) state = next (computation state).1 (computation state).2 :=
  rfl

/-- An action with another kind of error does the same to the state. -/
@[simp]
theorem run_adapt
    {Other : Type}
    (adapt : Error → Other) :
    (ExceptT.adapt adapt action : Action State Other Value).run state =
      ((action.run state).1.mapError adapt, (action.run state).2) :=
  rfl

@[simp]
theorem run_lift
    (computation : StateM State Value) :
    (liftM computation : Action State Error Value).run state =
      (.ok (computation state).1, (computation state).2) :=
  rfl

@[simp]
theorem run_within
    {Whole : Type}
    {part : Part Whole State}
    {whole : Whole} :
    (action.within part).run whole =
      ((action.run (part.get whole)).1, part.set (action.run (part.get whole)).2 whole) :=
  rfl

/-- What an action on a part of a state answers is what it answers on the part. -/
theorem of_run_within
    {Whole : Type}
    {part : Part Whole State}
    {whole wholeAfter : Whole}
    {result : Except Error Value}
    (ran : (action.within part).run whole = (result, wholeAfter)) :
    ∃ piece, action.run (part.get whole) = (result, piece) ∧ wholeAfter = part.set piece whole := by
  rw [run_within] at ran
  obtain ⟨rfl, rfl⟩ := Prod.mk.inj ran
  exact ⟨_, rfl, rfl⟩

end IntentPolicy.Action
