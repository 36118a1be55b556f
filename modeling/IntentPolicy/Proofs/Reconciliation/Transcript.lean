import IntentPolicy.Proofs.Reconciliation.Standing

namespace IntentPolicy

/-!
# Exchanges with enforcement

A client of which every call is written down with its answer shows what a reconciliation owes
to the client.  Its steps go through in the order of the plan, and the first call that fails is
the last one that is made.
-/

/-- A call to enforcement with its answer; only a creation is answered with an identifier. -/
structure Exchange where
  call : EnforcementCall
  answer : Except EnforcementError (Option String)

/-- A state with the exchanges that have led to it. -/
structure Transcribed (State : Type) where
  state : State
  transcript : List Exchange := []

/-- An action that is written down as a call, with its answer. -/
def Action.transcribed {State Value : Type} (call : EnforcementCall)
    (identifier? : Value → Option String) (action : Action State EnforcementError Value) :
    Action (Transcribed State) EnforcementError Value :=
  ExceptT.mk fun before =>
    let (result, after) := action.run before.state
    (result, ⟨after, before.transcript ++ [⟨call, result.map identifier?⟩]⟩)

/-- Writing down a call does not bear on what it does. -/
theorem Action.of_run_transcribed
    {State Value : Type}
    {call : EnforcementCall}
    {identifier? : Value → Option String}
    {action : Action State EnforcementError Value}
    {result : Except EnforcementError Value}
    {before after : Transcribed State}
    (answered : (action.transcribed call identifier?).run before = (result, after)) :
    action.run before.state = (result, after.state) ∧
      after.transcript = before.transcript ++ [⟨call, result.map identifier?⟩] := by
  obtain ⟨rfl, rfl⟩ := Prod.mk.inj answered
  exact ⟨rfl, rfl⟩

/-- A client of which every call is written down. -/
def Enforcement.transcribed {State : Type} (enforcement : Enforcement State) :
    Enforcement (Transcribed State) where
  create policy := (enforcement.create policy).transcribed (.create policy) some
  update externalId policy := (enforcement.update externalId policy).transcribed
    (.update externalId policy) fun _ => none
  delete externalId := (enforcement.delete externalId).transcribed (.delete externalId)
    fun _ => none

/-- A reconciler of which every call is written down. -/
def Reconciler.transcribed {State : Type} (reconciler : Reconciler State) :
    Reconciler (Transcribed State) where
  enforcement := reconciler.enforcement.transcribed
  newId := fun before =>
    let (id, after) := reconciler.newId before.state
    (id, { before with state := after })

/-- A client fails the same calls while they are written down. -/
theorem Enforcement.of_refuses_transcribed
    {State : Type}
    {enforcement : Enforcement State}
    {before after : Transcribed State}
    {cause : EnforcementError}
    {call : EnforcementCall}
    (refuses : enforcement.transcribed.Refuses before cause after call) :
    enforcement.Refuses before.state cause after.state call ∧
      after.transcript = before.transcript ++ [⟨call, .error cause⟩] := by
  cases call with
  | create policy => exact Action.of_run_transcribed refuses
  | update externalId policy => exact Action.of_run_transcribed refuses
  | delete externalId => exact Action.of_run_transcribed refuses

/--
What a step that goes through exchanges with enforcement, what it leaves and what it changes.
A record without an identifier of enforcement is deleted without a call, and overwritten by
creating it.
-/
inductive PlanStep.Does (intentId : String) (now : Instant) (created : Nat) :
    PlanStep → Option Exchange → Option PolicyRecord → Option AppliedStep → Prop
  | withdrawn {record : PolicyRecord}
      (assigned : isAssigned record.externalId = true) :
      Does intentId now created (.delete record) (some ⟨.delete record.externalId, .ok none⟩)
        none (some (.deleted record))
  | dropped {record : PolicyRecord}
      (unassigned : isAssigned record.externalId = false) :
      Does intentId now created (.delete record) none none (some (.deleted record))
  | unchanged {record : PolicyRecord} :
      Does intentId now created (.unchanged record) none (some record) none
  | overwritten {record : PolicyRecord} {policy : Policy}
      (assigned : isAssigned record.externalId = true) :
      Does intentId now created (.update record policy)
        (some ⟨.update record.externalId policy, .ok none⟩)
        (some (record.renewed record.externalId policy now))
        (some (.updated (record.renewed record.externalId policy now)))
  | registered {record : PolicyRecord} {policy : Policy} {externalId : String}
      (unassigned : isAssigned record.externalId = false) :
      Does intentId now created (.update record policy)
        (some ⟨.create policy, .ok (some externalId)⟩)
        (some (record.renewed externalId policy now))
        (some (.updated (record.renewed externalId policy now)))
  | created {policy : Policy} {id externalId : String} :
      Does intentId now created (.create policy)
        (some ⟨.create policy, .ok (some externalId)⟩)
        (some (newRecord id intentId externalId policy now created))
        (some (.created (newRecord id intentId externalId policy now created)))

/-- Steps go through one after the other, behind as many creations: what they exchange, the
records that they leave and the changes that they make, each in the order of the steps. -/
inductive Fulfilled (intentId : String) (now : Instant) :
    Nat → List PlanStep → List Exchange → List PolicyRecord → List AppliedStep → Prop
  | nil {created : Nat} : Fulfilled intentId now created [] [] [] []
  | cons {created : Nat} {step : PlanStep} {rest : List PlanStep} {exchange : Option Exchange}
      {exchanges : List Exchange} {left : Option PolicyRecord} {records : List PolicyRecord}
      {change : Option AppliedStep} {changes : List AppliedStep}
      (does : step.Does intentId now created exchange left change)
      (behind : Fulfilled intentId now (created + change.toList.countP AppliedStep.isCreated)
        rest exchanges records changes) :
      Fulfilled intentId now created (step :: rest) (exchange.toList ++ exchanges)
        (left.toList ++ records) (change.toList ++ changes)

/-- How far a plan is carried out: all of its steps go through, or those in front of a step
whose call fails, and nothing follows that call. -/
inductive Ends (intentId : String) (now : Instant) (created : Nat) (plan : List PlanStep) :
    Execution → List Exchange → Prop
  | finished {records : List PolicyRecord} {applied : List AppliedStep}
      {exchanges : List Exchange}
      (fulfilled : Fulfilled intentId now created plan exchanges records applied) :
      Ends intentId now created plan ⟨records, applied, none⟩ exchanges
  | failed {done rest : List PlanStep} {step : PlanStep} {records : List PolicyRecord}
      {applied : List AppliedStep} {exchanges : List Exchange} {call : EnforcementCall}
      {cause : EnforcementError}
      (planned : plan = done ++ step :: rest)
      (fulfilled : Fulfilled intentId now created done exchanges records applied)
      (asks : step.call? = some call) :
      Ends intentId now created plan ⟨records, applied, some ⟨step.user, cause⟩⟩
        (exchanges ++ [⟨call, .error cause⟩])

namespace Reconciler

variable {State : Type} {reconciler : Reconciler State} {intentId : String} {now : Instant}

section Step

variable {created : Nat} {step : PlanStep}

/-- A call that fails stops the step that makes it. -/
theorem run_carryOutStep_of_refuses
    {asked : EnforcementCall}
    {cause : EnforcementError}
    {before after : State}
    (asks : step.call? = some asked)
    (refuses : reconciler.enforcement.Refuses before cause after asked) :
    (reconciler.carryOutStep intentId now created step).run before =
      (.error ⟨step.user, cause⟩, after) := by
  cases step with
  | unchanged record => cases asks
  | create policy =>
      obtain rfl := Option.some.inj asks
      rw [carryOutStep, run_call_bind, show _ = _ from refuses]
      rfl
  | delete record =>
      cases assigned : isAssigned record.externalId with
      | false => simp [PlanStep.call?, assigned] at asks
      | true =>
          obtain rfl := Option.some.inj ((if_pos assigned).symm.trans asks)
          rw [carryOutStep, if_pos assigned, run_call_bind, show _ = _ from refuses]
          rfl
  | update record policy =>
      cases assigned : isAssigned record.externalId with
      | false =>
          obtain rfl := Option.some.inj ((if_neg (Bool.eq_false_iff.mp assigned)).symm.trans asks)
          rw [carryOutStep_update_of_unassigned assigned, run_call_bind, show _ = _ from refuses]
          rfl
      | true =>
          obtain rfl := Option.some.inj ((if_pos assigned).symm.trans asks)
          rw [carryOutStep_update_of_assigned assigned, run_call_bind, show _ = _ from refuses]
          rfl

/-- A run of a step is what carrying it out does. -/
theorem StepRun.carryOutStep_eq
    {result : Except Interruption (Option PolicyRecord × Option AppliedStep)}
    {before after : State}
    (run : reconciler.StepRun intentId now created before step result after) :
    (reconciler.carryOutStep intentId now created step).run before = (result, after) := by
  cases run with
  | deleted assigned answered =>
      rw [carryOutStep, if_pos assigned, run_call_bind, answered]
      rfl
  | dropped unassigned =>
      rw [carryOutStep, unassigned]
      rfl
  | unchanged => rfl
  | updated assigned answered =>
      rw [carryOutStep_update_of_assigned assigned, run_call_bind, answered]
      rfl
  | registered unassigned answered =>
      rw [carryOutStep_update_of_unassigned unassigned, run_call_bind, answered]
      rfl
  | created answered named =>
      rw [carryOutStep, run_call_bind, answered]
      dsimp only
      rw [Action.run_bind, Action.run_lift, named]
      rfl
  | refused asks answered => exact run_carryOutStep_of_refuses asks answered

/-- A step does the same to the state while calls are written down. -/
theorem StepRun.untranscribed
    {result : Except Interruption (Option PolicyRecord × Option AppliedStep)}
    {before after : Transcribed State}
    (run : reconciler.transcribed.StepRun intentId now created before step result after) :
    reconciler.StepRun intentId now created before.state step result after.state := by
  cases run with
  | deleted assigned answered => exact .deleted assigned (Action.of_run_transcribed answered).1
  | dropped unassigned => exact .dropped unassigned
  | unchanged => exact .unchanged
  | updated assigned answered => exact .updated assigned (Action.of_run_transcribed answered).1
  | registered unassigned answered =>
      exact .registered unassigned (Action.of_run_transcribed answered).1
  | created answered named =>
      obtain ⟨rfl, rfl⟩ := Prod.mk.inj named
      exact .created (Action.of_run_transcribed answered).1 rfl
  | refused asks answered => exact .refused asks (Enforcement.of_refuses_transcribed answered).1

/-- A step that goes through does what it says, and its exchange is written down. -/
theorem StepRun.does
    {left : Option PolicyRecord}
    {change : Option AppliedStep}
    {before after : Transcribed State}
    (run : reconciler.transcribed.StepRun intentId now created before step (.ok (left, change))
      after) :
    ∃ exchange, step.Does intentId now created exchange left change ∧
      after.transcript = before.transcript ++ exchange.toList := by
  cases run with
  | deleted assigned answered =>
      exact ⟨_, .withdrawn assigned, (Action.of_run_transcribed answered).2⟩
  | dropped unassigned => exact ⟨none, .dropped unassigned, (List.append_nil _).symm⟩
  | unchanged => exact ⟨none, .unchanged, (List.append_nil _).symm⟩
  | updated assigned answered =>
      exact ⟨_, .overwritten assigned, (Action.of_run_transcribed answered).2⟩
  | registered unassigned answered =>
      exact ⟨_, .registered unassigned, (Action.of_run_transcribed answered).2⟩
  | created answered named =>
      obtain ⟨rfl, rfl⟩ := Prod.mk.inj named
      exact ⟨_, .created, (Action.of_run_transcribed answered).2⟩

/-- A step stops only at a call that it makes, and the failure is what is written down. -/
theorem StepRun.refusal
    {interruption : Interruption}
    {before after : Transcribed State}
    (run : reconciler.transcribed.StepRun intentId now created before step (.error interruption)
      after) :
    ∃ call cause, step.call? = some call ∧ interruption = ⟨step.user, cause⟩ ∧
      after.transcript = before.transcript ++ [⟨call, .error cause⟩] := by
  cases run with
  | refused asks answered =>
      exact ⟨_, _, asks, rfl, (Enforcement.of_refuses_transcribed answered).2⟩

end Step

section Plan

variable {steps : List PlanStep} {execution final : Execution}

/-- A run of a plan is what carrying it out does. -/
theorem PlanRun.carryOut_eq
    {before after : State}
    (run : reconciler.PlanRun intentId now steps execution before final after) :
    reconciler.carryOut intentId now steps execution before = (final, after) := by
  induction run with
  | finished => rfl
  | stepped run _ inductionHypothesis =>
      rw [carryOut, Action.bind_apply, run.carryOutStep_eq]
      exact inductionHypothesis
  | stopped run =>
      rw [carryOut, Action.bind_apply, run.carryOutStep_eq]
      rfl

/-- A plan does the same to the state while calls are written down. -/
theorem PlanRun.untranscribed
    {before after : Transcribed State}
    (run : reconciler.transcribed.PlanRun intentId now steps execution before final after) :
    reconciler.PlanRun intentId now steps execution before.state final after.state := by
  induction run with
  | finished => exact .finished
  | stepped run _ inductionHypothesis => exact .stepped run.untranscribed inductionHypothesis
  | stopped run => exact .stopped run.untranscribed

end Plan

end Reconciler

/-- In front of what a plan has come to stands a step that went through. -/
theorem Ends.behind
    {intentId : String}
    {now : Instant}
    {created : Nat}
    {step : PlanStep}
    {rest : List PlanStep}
    {exchange : Option Exchange}
    {left : Option PolicyRecord}
    {change : Option AppliedStep}
    {execution : Execution}
    {exchanges : List Exchange}
    (does : step.Does intentId now created exchange left change)
    (ends : Ends intentId now (created + change.toList.countP AppliedStep.isCreated) rest
      execution exchanges) :
    Ends intentId now created (step :: rest)
      ⟨left.toList ++ execution.records, change.toList ++ execution.applied,
        execution.interruption⟩
      (exchange.toList ++ exchanges) := by
  cases ends with
  | finished fulfilled => exact .finished (.cons does fulfilled)
  | @failed done rest _ _ _ _ _ _ planned fulfilled asks =>
      rw [← List.append_assoc]
      exact .failed (congrArg (step :: ·) planned) (.cons does fulfilled) asks

/-- A run of a plan ends as its steps say, and its exchanges are what is written down. -/
theorem Reconciler.PlanRun.ends
    {State : Type}
    {reconciler : Reconciler State}
    {intentId : String}
    {now : Instant}
    {steps : List PlanStep}
    {execution final : Execution}
    {before after : Transcribed State}
    (run : reconciler.transcribed.PlanRun intentId now steps execution before final after)
    (uninterrupted : execution.interruption = none) :
    ∃ records applied exchanges,
      final.records = execution.records ++ records ∧
      final.applied = execution.applied ++ applied ∧
      after.transcript = before.transcript ++ exchanges ∧
      Ends intentId now execution.created steps ⟨records, applied, final.interruption⟩ exchanges := by
  induction run with
  | finished =>
      rw [uninterrupted]
      exact ⟨[], [], [], by simp, by simp, by simp, .finished .nil⟩
  | @stepped step rest execution final left change before reached after run behind
      inductionHypothesis =>
      obtain ⟨exchange, does, written⟩ := run.does
      obtain ⟨records, applied, exchanges, recordsEq, appliedEq, transcriptEq, ends⟩ :=
        inductionHypothesis uninterrupted
      rw [execution.created_note] at ends
      have endsHere := ends.behind does
      refine ⟨_, _, _, ?_, ?_, ?_, endsHere⟩
      · rw [recordsEq, Execution.note, List.append_assoc]
      · rw [appliedEq, Execution.note, List.append_assoc]
      · rw [transcriptEq, written, List.append_assoc]
  | stopped run =>
      obtain ⟨call, cause, asks, rfl, written⟩ := run.refusal
      exact ⟨[], [], _, by simp, by simp, written, .failed rfl .nil asks⟩

/-- Carrying out a plan ends as its steps say, with the outcome that it has when nothing is
written down. -/
theorem Reconciler.ends_of_carryOut
    {State : Type}
    (reconciler : Reconciler State)
    (intentId : String)
    (now : Instant)
    (steps : List PlanStep)
    (state : State) :
    let run := reconciler.transcribed.carryOut intentId now steps {} ⟨state, []⟩
    run.1 = (reconciler.carryOut intentId now steps {} state).1 ∧
      Ends intentId now 0 steps run.1 run.2.transcript := by
  intro run
  have planRun := reconciler.transcribed.planRun intentId now steps {} ⟨state, []⟩
  constructor
  · rw [planRun.untranscribed.carryOut_eq]
  · obtain ⟨records, applied, exchanges, recordsEq, appliedEq, transcriptEq, ends⟩ :=
      planRun.ends rfl
    have outcomeEq : run.1 = ⟨records, applied, run.1.interruption⟩ := by
      rw [← List.nil_append records, ← List.nil_append applied]
      exact congrArg₂ (Execution.mk · · run.1.interruption) recordsEq appliedEq
    rw [outcomeEq]
    exact transcriptEq ▸ ends

/--
A reconciliation does what its plan says, up to the first call that fails.  It makes the calls
of its steps in their order, keeps the answers that creations are given, and tells which
changes went through in front of the call that failed and why; with no failure there is one
record under each policy, in their order.  A withdrawal does the same for its plan.
-/
theorem plan_is_carried_out_step_by_step
    {State : Type}
    (reconciler : Reconciler State)
    (intentId : String)
    (old : List PolicyRecord)
    (new : List Policy)
    (now : Instant)
    (state : State) :
    (let run := reconciler.transcribed.reconcile intentId old new now ⟨state, []⟩
     run.1 = (reconciler.reconcile intentId old new now state).1 ∧
      Ends intentId now 0 (planReconciliation old new) run.1 run.2.transcript ∧
      (run.1.interruption = none → List.Forall₂ PolicyRecord.IsUnder run.1.records new)) ∧
      let run := reconciler.transcribed.retire intentId old ⟨state, []⟩
      run.1 = (reconciler.retire intentId old state).1 ∧
        Ends intentId ⟨0, 0⟩ 0 ((oldestFirst old).map .delete) run.1 run.2.transcript := by
  constructor
  · obtain ⟨sameOutcome, ends⟩ :=
      reconciler.ends_of_carryOut intentId now (planReconciliation old new) state
    refine ⟨sameOutcome, ends, fun finished => ?_⟩
    have run := reconciler.transcribed.planRun intentId now (planReconciliation old new) {}
      ⟨state, []⟩
    exact (run.carried_of_finished finished).isUnder (planReconciliation_eq old new).symm .nil
  · exact reconciler.ends_of_carryOut intentId ⟨0, 0⟩ (planRetirement old) state

end IntentPolicy
