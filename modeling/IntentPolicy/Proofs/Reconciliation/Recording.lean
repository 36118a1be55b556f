import IntentPolicy.Proofs.Reconciliation.Carrying

namespace IntentPolicy

/-!
# Calls on record

A client of which every call is put on record shows how far a plan was carried out: the
calls that went through are those of the steps behind which the plan stopped.
-/

/-- A state with the calls that have been made on it, and whether they went through. -/
structure Recorded (State : Type) where
  state : State
  log : List (EnforcementCall × Bool) := []

namespace Recorded

variable {State : Type}

/-- The calls that have been made. -/
def calls (recorded : Recorded State) : List EnforcementCall :=
  recorded.log.map (·.1)

/-- The calls that went through. -/
def succeeded (recorded : Recorded State) : List EnforcementCall :=
  (recorded.log.filter (·.2)).map (·.1)

end Recorded

/-- An action that is put on record as a call. -/
def Action.recorded {State Value : Type} (call : EnforcementCall)
    (action : Action State EnforcementError Value) :
    Action (Recorded State) EnforcementError Value :=
  ExceptT.mk fun recorded =>
    let (result, after) := action.run recorded.state
    (result, ⟨after, recorded.log ++ [(call, result.isOk)]⟩)

/-- What is put on record tells whether the call went through. -/
theorem Action.log_of_recorded
    {State Value : Type}
    {call : EnforcementCall}
    {action : Action State EnforcementError Value}
    {result : Except EnforcementError Value}
    {before after : Recorded State}
    (answered : (action.recorded call).run before = (result, after)) :
    after.log = before.log ++ [(call, result.isOk)] := by
  obtain ⟨rfl, rfl⟩ := Prod.mk.inj answered
  rfl

/-- What is put on record does not bear on what the action does. -/
theorem Action.state_of_recorded
    {State Value : Type}
    {call : EnforcementCall}
    {action : Action State EnforcementError Value}
    {result : Except EnforcementError Value}
    {before after : Recorded State}
    (answered : (action.recorded call).run before = (result, after)) :
    action.run before.state = (result, after.state) := by
  obtain ⟨rfl, rfl⟩ := Prod.mk.inj answered
  rfl

/-- A client of which every call is put on record. -/
def Enforcement.recorded {State : Type} (enforcement : Enforcement State) :
    Enforcement (Recorded State) where
  create policy := (enforcement.create policy).recorded (.create policy)
  update externalId policy := (enforcement.update externalId policy).recorded
    (.update externalId policy)
  delete externalId := (enforcement.delete externalId).recorded (.delete externalId)

/-- A reconciler of which every call is put on record. -/
def Reconciler.recorded {State : Type} (reconciler : Reconciler State) :
    Reconciler (Recorded State) where
  enforcement := reconciler.enforcement.recorded
  newId := fun recorded =>
    let (id, after) := reconciler.newId recorded.state
    (id, { recorded with state := after })

/-- No call of the client fails. -/
structure Enforcement.NeverFails {State : Type} (enforcement : Enforcement State) : Prop where
  create : ∀ policy state, ((enforcement.create policy).run state).1.isOk = true
  update : ∀ externalId policy state,
    ((enforcement.update externalId policy).run state).1.isOk = true
  delete : ∀ externalId state, ((enforcement.delete externalId).run state).1.isOk = true

/-- A client that never fails refuses no call, also while calls are put on record. -/
theorem Enforcement.NeverFails.not_refuses
    {State : Type}
    {enforcement : Enforcement State}
    {before after : Recorded State}
    {cause : EnforcementError}
    {call : EnforcementCall}
    (neverFails : enforcement.NeverFails) :
    ¬ enforcement.recorded.Refuses before cause after call := by
  intro refuses
  have failed : ∀ {Value : Type} {action : Action State EnforcementError Value},
      (action.recorded call).run before = (.error cause, after) →
        (action.run before.state).1.isOk = false := by
    intro Value action answered
    have sameResult : (action.run before.state).1 = .error cause := congrArg Prod.fst answered
    rw [sameResult]
    rfl
  cases call with
  | create policy =>
      have answered := failed refuses
      rw [neverFails.create] at answered
      cases answered
  | update externalId policy =>
      have answered := failed refuses
      rw [neverFails.update] at answered
      cases answered
  | delete externalId =>
      have answered := failed refuses
      rw [neverFails.delete] at answered
      cases answered

/-- What a step that goes through leaves and changes, whoever is asked. -/
inductive PlanStep.Yields (intentId : String) (now : Instant) (created : Nat) :
    PlanStep → Option PolicyRecord → Option AppliedStep → Prop
  | deleted (record : PolicyRecord) :
      Yields intentId now created (.delete record) none (some (.deleted record))
  | unchanged (record : PolicyRecord) :
      Yields intentId now created (.unchanged record) (some record) none
  | updated (record : PolicyRecord) (policy : Policy) (externalId : String) :
      Yields intentId now created (.update record policy)
        (some (record.renewed externalId policy now))
        (some (.updated (record.renewed externalId policy now)))
  | created (policy : Policy) (id externalId : String) :
      Yields intentId now created (.create policy)
        (some (newRecord id intentId externalId policy now created))
        (some (.created (newRecord id intentId externalId policy now created)))

/-- All steps go through, and take one execution to another. -/
inductive Carried (intentId : String) (now : Instant) :
    List PlanStep → Execution → Execution → Prop
  | nil (execution : Execution) : Carried intentId now [] execution execution
  | cons {step : PlanStep} {rest : List PlanStep} {execution final : Execution}
      {left : Option PolicyRecord} {change : Option AppliedStep}
      (yields : step.Yields intentId now execution.created left change)
      (behind : Carried intentId now rest (execution.note left change) final) :
      Carried intentId now (step :: rest) execution final

/-- Steps that go through do not interrupt an execution. -/
theorem Carried.interruption_eq
    {intentId : String}
    {now : Instant}
    {steps : List PlanStep}
    {execution final : Execution}
    (carried : Carried intentId now steps execution final) :
    final.interruption = execution.interruption := by
  induction carried with
  | nil => rfl
  | cons _ _ inductionHypothesis => exact inductionHypothesis

/-- Records that are withdrawn are what is applied. -/
theorem Carried.applied_of_deletes
    {intentId : String}
    {now : Instant}
    {records : List PolicyRecord}
    {execution final : Execution}
    (carried : Carried intentId now (records.map .delete) execution final) :
    final.applied = execution.applied ++ records.map .deleted := by
  induction records generalizing execution with
  | nil =>
      cases carried
      exact (List.append_nil _).symm
  | cons record records inductionHypothesis =>
      cases carried with
      | cons yields behind =>
          cases yields with
          | deleted =>
              rw [inductionHypothesis behind]
              simp [Execution.note]

/-- Every step but a deletion leaves a record. -/
theorem Carried.length_records
    {intentId : String}
    {now : Instant}
    {steps : List PlanStep}
    {execution final : Execution}
    (carried : Carried intentId now steps execution final) :
    final.records.length = execution.records.length + steps.countP fun step => !step.isDelete := by
  induction carried with
  | nil => rfl
  | cons yields _ inductionHypothesis =>
      rw [inductionHypothesis, List.countP_cons, Execution.note, List.length_append]
      cases yields <;> simp [PlanStep.isDelete, Nat.add_assoc, Nat.add_comm]

/-- What is changed without a deletion is among the records that are left. -/
theorem Carried.length_applied_le
    {intentId : String}
    {now : Instant}
    {steps : List PlanStep}
    {execution final : Execution}
    (carried : Carried intentId now steps execution final)
    (noDeletion : ∀ step ∈ steps, step.isDelete = false) :
    final.applied.length + execution.records.length ≤
      final.records.length + execution.applied.length := by
  induction carried with
  | nil execution => exact Nat.le_of_eq (Nat.add_comm _ _)
  | cons yields _ inductionHypothesis =>
      obtain ⟨notHere, notBehind⟩ := List.forall_mem_cons.mp noDeletion
      have behind := inductionHypothesis notBehind
      rw [Execution.note, List.length_append, List.length_append] at behind
      cases yields with
      | deleted => cases notHere
      | unchanged => simp at behind; omega
      | updated => simp at behind; omega
      | created => simp at behind; omega

/-- The calls that steps make. -/
def callsOf (steps : List PlanStep) : List EnforcementCall :=
  steps.filterMap PlanStep.call?

namespace Reconciler

variable {State : Type} {reconciler : Reconciler State} {intentId : String} {now : Instant}

theorem StepRun.yields
    {created : Nat}
    {step : PlanStep}
    {left : Option PolicyRecord}
    {change : Option AppliedStep}
    {before after : State}
    (run : reconciler.StepRun intentId now created before step (.ok (left, change)) after) :
    step.Yields intentId now created left change := by
  cases run with
  | deleted => exact .deleted _
  | dropped => exact .deleted _
  | unchanged => exact .unchanged _
  | updated => exact .updated ..
  | registered => exact .updated ..
  | created => exact .created ..

/-- A plan that is finished was carried out to its end. -/
theorem PlanRun.carried_of_finished
    {steps : List PlanStep}
    {execution final : Execution}
    {before after : State}
    (run : reconciler.PlanRun intentId now steps execution before final after)
    (finished : final.interruption = none) :
    Carried intentId now steps execution final := by
  induction run with
  | finished => exact .nil _
  | stepped run _ inductionHypothesis => exact .cons run.yields (inductionHypothesis finished)
  | stopped => cases finished

/-- Every call to enforcement is put on a log with whether it went through, and nothing else is. -/
structure Logs (reconciler : Reconciler State) (log : State → List (EnforcementCall × Bool)) :
    Prop where
  create : ∀ {policy : Policy} {before : State} {result : Except EnforcementError String}
    {after : State}, (reconciler.enforcement.create policy).run before = (result, after) →
      log after = log before ++ [(.create policy, result.isOk)]
  update : ∀ {externalId : String} {policy : Policy} {before : State}
    {result : Except EnforcementError Unit} {after : State},
    (reconciler.enforcement.update externalId policy).run before = (result, after) →
      log after = log before ++ [(.update externalId policy, result.isOk)]
  delete : ∀ {externalId : String} {before : State} {result : Except EnforcementError Unit}
    {after : State}, (reconciler.enforcement.delete externalId).run before = (result, after) →
      log after = log before ++ [(.delete externalId, result.isOk)]
  newId : ∀ before : State, log (reconciler.newId before).2 = log before

/-- A step puts its call on the log, and whether it went through. -/
theorem StepRun.logged
    {log : State → List (EnforcementCall × Bool)}
    {created : Nat}
    {step : PlanStep}
    {result : Except Interruption (Option PolicyRecord × Option AppliedStep)}
    {before after : State}
    (run : reconciler.StepRun intentId now created before step result after)
    (logs : reconciler.Logs log) :
    log after = log before ++ step.call?.toList.map fun call => (call, result.isOk) := by
  cases run with
  | deleted assigned answered =>
      rw [PlanStep.call?, if_pos assigned]
      exact logs.delete answered
  | dropped unassigned =>
      rw [PlanStep.call?, unassigned]
      exact (List.append_nil _).symm
  | unchanged => exact (List.append_nil _).symm
  | updated assigned answered =>
      rw [PlanStep.call?, if_pos assigned]
      exact logs.update answered
  | registered unassigned answered =>
      rw [PlanStep.call?, unassigned]
      exact logs.create answered
  | @created _ _ _ reached _ answered named =>
      have sameLog := logs.newId reached
      rw [named] at sameLog
      exact sameLog.trans (logs.create answered)
  | @refused step call cause after asks answered =>
      rw [asks]
      cases call with
      | create policy => exact logs.create answered
      | update externalId policy => exact logs.update answered
      | delete externalId => exact logs.delete answered

/-- Carrying out a plan puts calls of its steps on the log, wherever it stops. -/
theorem PlanRun.logged
    {log : State → List (EnforcementCall × Bool)}
    {steps : List PlanStep}
    {execution final : Execution}
    {before after : State}
    (run : reconciler.PlanRun intentId now steps execution before final after)
    (logs : reconciler.Logs log) :
    ∃ made, log after = log before ++ made ∧
      ∀ entry ∈ made, ∃ step ∈ steps, step.call? = some entry.1 := by
  have ofStep {step : PlanStep} {answer : Bool} :
      ∀ entry ∈ step.call?.toList.map fun call => (call, answer), step.call? = some entry.1 := by
    intro entry member
    obtain ⟨call, asked, rfl⟩ := List.mem_map.mp member
    exact Option.mem_toList.mp asked
  induction run with
  | finished => exact ⟨[], (List.append_nil _).symm, by simp⟩
  | stepped run _ inductionHypothesis =>
      obtain ⟨made, logBehind, ofSteps⟩ := inductionHypothesis
      rw [run.logged logs, List.append_assoc] at logBehind
      refine ⟨_, logBehind, fun entry member => ?_⟩
      rcases List.mem_append.mp member with here | behind
      · exact ⟨_, List.mem_cons_self, ofStep entry here⟩
      · obtain ⟨step, planned, asks⟩ := ofSteps entry behind
        exact ⟨step, List.mem_cons_of_mem _ planned, asks⟩
  | stopped run =>
      exact ⟨_, run.logged logs, fun entry member => ⟨_, List.mem_cons_self, ofStep entry member⟩⟩

theorem recorded_logs
    (reconciler : Reconciler State) :
    reconciler.recorded.Logs Recorded.log where
  create := Action.log_of_recorded
  update := Action.log_of_recorded
  delete := Action.log_of_recorded
  newId _ := rfl

theorem StepRun.log
    {created : Nat}
    {step : PlanStep}
    {result : Except Interruption (Option PolicyRecord × Option AppliedStep)}
    {before after : Recorded State}
    (run : reconciler.recorded.StepRun intentId now created before step result after) :
    after.log = before.log ++ step.call?.toList.map fun call => (call, result.isOk) :=
  run.logged reconciler.recorded_logs

/-- A step stops only at a call that it makes. -/
theorem StepRun.call_of_error
    {created : Nat}
    {step : PlanStep}
    {interruption : Interruption}
    {before after : State}
    (run : reconciler.StepRun intentId now created before step (.error interruption) after) :
    ∃ call cause, step.call? = some call ∧
      reconciler.enforcement.Refuses before cause after call := by
  cases run with
  | refused asks answered => exact ⟨_, _, asks, answered⟩

/--
How far a plan was carried out: up to its end, or up to a call that failed.  The calls that
went through are those of the steps in front.
-/
theorem PlanRun.carried
    {steps : List PlanStep}
    {execution final : Execution}
    {before after : Recorded State}
    (run : reconciler.recorded.PlanRun intentId now steps execution before final after) :
    ∃ done rest reached, steps = done ++ rest ∧ Carried intentId now done execution reached ∧
      ((rest = [] ∧ final = reached ∧
          after.log = before.log ++ (callsOf done).map fun call => (call, true)) ∨
        ∃ interruption refused, final = { reached with interruption := some interruption } ∧
          (∃ step later, rest = step :: later ∧ step.call? = some refused) ∧
          (∃ state cause behind,
            reconciler.enforcement.recorded.Refuses state cause behind refused) ∧
          after.log =
            before.log ++ ((callsOf done).map fun call => (call, true)) ++ [(refused, false)]) := by
  induction run with
  | finished => exact ⟨[], [], _, rfl, .nil _, Or.inl ⟨rfl, rfl, by simp [callsOf]⟩⟩
  | @stepped step rest execution final left change before reached after run behind
      inductionHypothesis =>
      obtain ⟨done, undone, final, stepsEq, carried, ending⟩ := inductionHypothesis
      refine ⟨step :: done, undone, final, by rw [stepsEq, List.cons_append],
        .cons run.yields carried, ?_⟩
      have stepLog : reached.log = before.log ++ step.call?.toList.map fun call => (call, true) :=
        run.log
      have callsAhead : callsOf (step :: done) = step.call?.toList ++ callsOf done := by
        rw [callsOf, List.filterMap_cons]
        cases step.call? <;> rfl
      rw [stepLog] at ending
      rw [callsAhead, List.map_append, ← List.append_assoc before.log]
      exact ending
  | stopped run =>
      obtain ⟨call, cause, asks, refuses⟩ := run.call_of_error
      have stepLog := run.log
      rw [asks] at stepLog
      refine ⟨[], _, _, rfl, .nil _,
        Or.inr ⟨_, call, rfl, ⟨_, _, rfl, asks⟩, ⟨_, _, _, refuses⟩, ?_⟩⟩
      rw [stepLog]
      simp [callsOf, Except.isOk, Except.toBool]

end Reconciler

end IntentPolicy
