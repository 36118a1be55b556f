import IntentPolicy.Proofs.Reconciliation.Standing

namespace IntentPolicy

/-!
# Reconciliation is resumed where it failed

An attempt that fails at any call leaves records, from which a second attempt makes the
calls that are still missing, and no other.
-/

theorem callsOf_append
    (done rest : List PlanStep) :
    callsOf (done ++ rest) = callsOf done ++ callsOf rest :=
  List.filterMap_append

theorem callsOf_unchanged
    (records : List PolicyRecord) :
    callsOf (records.map .unchanged) = [] := by
  rw [callsOf, List.filterMap_map]
  exact List.filterMap_eq_nil_iff.mpr fun _ _ => rfl

section Attempt

variable {State : Type} {reconciler : Reconciler State} {intentId : String} {now : Instant}
  {plan done rest : List PlanStep} {attempt : Execution × Recorded State} {reached : Execution}

/-- Where an attempt stops: at the end of its plan, or at a call that fails. -/
structure StopsBehind (reconciler : Reconciler State) (intentId : String) (now : Instant)
    (plan : List PlanStep) (attempt : Execution × Recorded State)
    (done rest : List PlanStep) (reached : Execution) : Prop where
  plan_eq : plan = done ++ rest
  carried : Carried intentId now done {} reached
  applied : attempt.1.applied = reached.applied
  succeeded : attempt.2.succeeded = callsOf done
  ending :
    (rest = [] ∧ attempt.1 = reached ∧ attempt.2.calls = callsOf done) ∨
      (attempt.1.interruption ≠ none ∧ ¬ reconciler.enforcement.NeverFails)

/-- What went through is what is on record as such. -/
theorem Recorded.succeeded_eq
    {recorded : Recorded State}
    {wentThrough : List EnforcementCall}
    {failed : List (EnforcementCall × Bool)}
    (log : recorded.log = (wentThrough.map fun call => (call, true)) ++ failed)
    (fails : ∀ entry ∈ failed, entry.2 = false) :
    recorded.succeeded = wentThrough := by
  have noneFailed : failed.filter (·.2) = [] := by
    rw [List.filter_eq_nil_iff]
    intro entry member
    rw [fails entry member]
    exact Bool.false_ne_true
  have allOfThem : (wentThrough.map fun call => (call, true)).filter (·.2) =
      wentThrough.map fun call => (call, true) := by
    rw [List.filter_eq_self]
    intro entry member
    obtain ⟨call, -, rfl⟩ := List.mem_map.mp member
    rfl
  rw [Recorded.succeeded, log, List.filter_append, noneFailed, List.append_nil, allOfThem,
    List.map_map]
  exact List.map_id _

/-- Every attempt stops at some place of its plan. -/
theorem Reconciler.exists_stopsBehind
    (reconciler : Reconciler State)
    (intentId : String)
    (now : Instant)
    (plan : List PlanStep)
    (state : State) :
    ∃ done rest reached, StopsBehind reconciler intentId now plan
      (reconciler.recorded.carryOut intentId now plan {} ⟨state, []⟩) done rest reached := by
  obtain ⟨done, rest, reached, planEq, carried, ending⟩ :=
    (reconciler.recorded.planRun intentId now plan {} ⟨state, []⟩).carried
  refine ⟨done, rest, reached, ?_⟩
  rcases ending with ⟨restEq, finalEq, logEq⟩ |
    ⟨interruption, refused, finalEq, -, ⟨_, _, _, refuses⟩, logEq⟩
  · rw [List.nil_append] at logEq
    have succeeded := Recorded.succeeded_eq (logEq.trans (List.append_nil _).symm) (by simp)
    refine ⟨planEq, carried, by rw [finalEq], succeeded, Or.inl ⟨restEq, finalEq, ?_⟩⟩
    rw [Recorded.calls, logEq, List.map_map]
    exact List.map_id _
  · rw [List.nil_append] at logEq
    have succeeded := Recorded.succeeded_eq logEq (by simp)
    refine ⟨planEq, carried, by rw [finalEq], succeeded, Or.inr ⟨?_, ?_⟩⟩
    · rw [finalEq]
      exact Option.some_ne_none interruption
    · intro neverFails
      exact neverFails.not_refuses refuses

/-- An attempt without a failing call carries its plan out to its end. -/
theorem StopsBehind.finished
    (stops : StopsBehind reconciler intentId now plan attempt done rest reached)
    (noFailure : attempt.1.interruption = none ∨ reconciler.enforcement.NeverFails) :
    Carried intentId now plan {} attempt.1 ∧ attempt.2.calls = callsOf plan := by
  obtain ⟨planEq, carried, -, -, ⟨restEq, finalEq, calls⟩ | ⟨interrupted, failing⟩⟩ := stops
  · rw [restEq, List.append_nil] at planEq
    rw [planEq, finalEq]
    exact ⟨carried, calls⟩
  · rcases noFailure with uninterrupted | neverFails
    · exact (interrupted uninterrupted).elim
    · exact (failing neverFails).elim

/-- A client that never fails carries a plan out to its end and is asked all of its calls. -/
theorem Reconciler.carried_of_neverFails
    (reconciler : Reconciler State)
    (neverFails : reconciler.enforcement.NeverFails)
    (intentId : String)
    (now : Instant)
    (plan : List PlanStep)
    (state : State) :
    Carried intentId now plan {}
        (reconciler.recorded.carryOut intentId now plan {} ⟨state, []⟩).1 ∧
      (reconciler.recorded.carryOut intentId now plan {} ⟨state, []⟩).2.calls = callsOf plan := by
  obtain ⟨_, _, _, stops⟩ := reconciler.exists_stopsBehind intentId now plan state
  exact stops.finished (Or.inr neverFails)

/-- Records that are left alone stay, and so does the state. -/
theorem Reconciler.carryOut_unchanged
    (reconciler : Reconciler State)
    (intentId : String)
    (now : Instant)
    (records : List PolicyRecord)
    (execution : Execution)
    (state : State) :
    reconciler.carryOut intentId now (records.map .unchanged) execution state =
      ({ execution with records := execution.records ++ records }, state) := by
  induction records generalizing execution with
  | nil => simp [Reconciler.carryOut]; rfl
  | cons record records inductionHypothesis =>
      have goesOn :
          reconciler.carryOut intentId now ((record :: records).map .unchanged) execution state =
            reconciler.carryOut intentId now (records.map .unchanged)
              (execution.note (some record) none) state := rfl
      rw [goesOn, inductionHypothesis]
      simp [Execution.note]

end Attempt

/--
A second attempt makes the calls that a first one has left out, and leaves records that
hold the policies.
-/
structure Resumes {First Whole Second : Type} (attempt : Execution × Recorded First)
    (planned : Execution × Recorded Whole) (resumed : Execution × Recorded Second)
    (new : List Policy) : Prop where
  calls : planned.2.calls = attempt.2.succeeded ++ resumed.2.calls
  finished : resumed.1.interruption = none
  holds : Hold resumed.1.records new

section Resumption

variable {First Whole Second : Type} {first : Reconciler First} {intentId : String}
  {old : List PolicyRecord} {new : List Policy} {now later : Instant}
  {attempt : Execution × Recorded First} {done rest : List PlanStep} {reached : Execution}

/-- The records that an attempt leaves stand where the plan for them goes on. -/
theorem StopsBehind.standing
    (stops : StopsBehind first intentId now (planReconciliation old new) attempt done rest reached)
    (distinctIds : (old.map (·.id)).Nodup)
    (nanFree : ∀ policy ∈ new, policy.IsNaNFree)
    (earlier : new ≠ [] → ∀ record ∈ old, record.createdAt.lt now = true) :
    ∃ pending left, Standing now new (amended old attempt.1.applied) reached pending left ∧
      rest = alignedPlan pending left := by
  obtain ⟨changes, pending, left, appliedEq, standing, planEq⟩ :=
    stops.carried.standing nanFree (.start distinctIds earlier)
      ((planReconciliation_eq old new).symm.trans stops.plan_eq)
  have changesEq : attempt.1.applied = changes := by
    rw [stops.applied, appliedEq, List.nil_append]
  exact ⟨pending, left, changesEq ▸ standing, planEq⟩

/-- What an attempt has left out is what is to be done for the records that it leaves. -/
theorem StopsBehind.resumes
    {planned : Execution × Recorded Whole}
    {resumed : Execution × Recorded Second}
    (stops : StopsBehind first intentId now (planReconciliation old new) attempt done rest reached)
    (distinctIds : (old.map (·.id)).Nodup)
    (nanFree : ∀ policy ∈ new, policy.IsNaNFree)
    (earlier : new ≠ [] → ∀ record ∈ old, record.createdAt.lt now = true)
    (plannedCalls : planned.2.calls = callsOf (planReconciliation old new))
    (resumedRun :
      Carried intentId later (planReconciliation (amended old attempt.1.applied) new) {} resumed.1 ∧
        resumed.2.calls = callsOf (planReconciliation (amended old attempt.1.applied) new)) :
    Resumes attempt planned resumed new := by
  obtain ⟨pending, left, standing, restEq⟩ := stops.standing distinctIds nanFree earlier
  obtain ⟨resumedCarried, resumedCalls⟩ := resumedRun
  refine ⟨?_, resumedCarried.interruption_eq, ?_⟩
  · calc
      planned.2.calls = callsOf done ++ callsOf rest := by
        rw [plannedCalls, stops.plan_eq, callsOf_append]
      _ = attempt.2.succeeded ++ resumed.2.calls := by
        rw [stops.succeeded, resumedCalls, standing.plan_eq, callsOf_append, callsOf_unchanged,
          List.nil_append, restEq]
  · exact resumedCarried.hold nanFree (planReconciliation_eq _ _).symm

/-- Nothing is done for the records that a finished attempt leaves. -/
theorem StopsBehind.repeated
    {Again : Type}
    (stops : StopsBehind first intentId now (planReconciliation old new) attempt done rest reached)
    (distinctIds : (old.map (·.id)).Nodup)
    (nanFree : ∀ policy ∈ new, policy.IsNaNFree)
    (earlier : new ≠ [] → ∀ record ∈ old, record.createdAt.lt now = true)
    (finished : attempt.1.interruption = none)
    (again : Reconciler Again)
    (state : Again) :
    again.reconcile intentId attempt.1.records new later state =
      ({ records := attempt.1.records }, state) := by
  obtain ⟨pending, left, standing, restEq⟩ := stops.standing distinctIds nanFree earlier
  obtain ⟨-, -, -, -, ⟨rfl, finalEq, -⟩ | ⟨interrupted, -⟩⟩ := stops
  · obtain ⟨rfl, rfl⟩ := nil_of_alignedPlan restEq.symm
    have atTheEnd : Standing now new reached.records reached [] [] :=
      { standing with same := by rw [List.append_nil] }
    rw [Reconciler.reconcile, finalEq, atTheEnd.plan_eq, alignedPlan_nil, List.append_nil,
      again.carryOut_unchanged, List.nil_append]
  · exact (interrupted finished).elim

/-- A second attempt resumes a first one, when only the first meets failures. -/
theorem Reconciler.resumes
    (first : Reconciler First)
    {whole : Reconciler Whole}
    {second : Reconciler Second}
    (wholeNeverFails : whole.enforcement.NeverFails)
    (secondNeverFails : second.enforcement.NeverFails)
    (intentId : String)
    (later : Instant)
    (distinctIds : (old.map (·.id)).Nodup)
    (nanFree : ∀ policy ∈ new, policy.IsNaNFree)
    (earlier : new ≠ [] → ∀ record ∈ old, record.createdAt.lt now = true)
    (firstState : First)
    (wholeState : Whole)
    (secondState : Second) :
    Resumes (first.recorded.reconcile intentId old new now ⟨firstState, []⟩)
      (whole.recorded.reconcile intentId old new now ⟨wholeState, []⟩)
      (second.recorded.reconcile intentId
        (amended old (first.recorded.reconcile intentId old new now ⟨firstState, []⟩).1.applied)
        new later ⟨secondState, []⟩)
      new := by
  obtain ⟨done, rest, reached, stops⟩ :=
    first.exists_stopsBehind intentId now (planReconciliation old new) firstState
  have planned := whole.carried_of_neverFails wholeNeverFails intentId now
    (planReconciliation old new) wholeState
  have resumed := second.carried_of_neverFails secondNeverFails intentId later
    (planReconciliation (amended old
      (first.recorded.reconcile intentId old new now ⟨firstState, []⟩).1.applied) new) secondState
  exact stops.resumes distinctIds nanFree earlier planned.2 resumed

end Resumption

/--
Reconciliation is resumed where it failed.  Whatever call a first attempt fails at, a second
one for the records with the applied changes carried out makes the calls that were left out,
in their order, and ends with records that hold the policies.  What has been finished is not
done again, and a withdrawal is resumed in the same way.
-/
theorem reconcile_resumes
    {First Whole Second Again : Type}
    (first : Reconciler First)
    (whole : Reconciler Whole)
    (second : Reconciler Second)
    (again : Reconciler Again)
    (wholeNeverFails : whole.enforcement.NeverFails)
    (secondNeverFails : second.enforcement.NeverFails)
    (intentId : String)
    (old : List PolicyRecord)
    (new : List Policy)
    (now later : Instant)
    (distinctIds : (old.map (·.id)).Nodup)
    (firstState : First)
    (wholeState : Whole)
    (secondState : Second)
    (againState : Recorded Again) :
    ((∀ policy ∈ new, policy.IsNaNFree) →
      (∀ record ∈ old, record.createdAt.lt now = true) →
      let attempt := first.recorded.reconcile intentId old new now ⟨firstState, []⟩
      let planned := whole.recorded.reconcile intentId old new now ⟨wholeState, []⟩
      let stored := amended old attempt.1.applied
      let resumed := second.recorded.reconcile intentId stored new later ⟨secondState, []⟩
      Resumes attempt planned resumed new ∧
        (attempt.1.interruption = none →
          again.recorded.reconcile intentId attempt.1.records new later againState =
            ({ records := attempt.1.records }, againState))) ∧
      let attempt := first.recorded.retire intentId old ⟨firstState, []⟩
      let planned := whole.recorded.retire intentId old ⟨wholeState, []⟩
      let stored := amended old attempt.1.applied
      let resumed := second.recorded.retire intentId stored ⟨secondState, []⟩
      Resumes attempt planned resumed [] := by
  constructor
  · intro nanFree earlier
    constructor
    · exact first.resumes wholeNeverFails secondNeverFails intentId later distinctIds nanFree
        (fun _ => earlier) firstState wholeState secondState
    · intro finished
      obtain ⟨done, rest, reached, stops⟩ :=
        first.exists_stopsBehind intentId now (planReconciliation old new) firstState
      exact stops.repeated distinctIds nanFree (fun _ => earlier) finished again.recorded againState
  · simp only [Reconciler.retire_eq_reconcile]
    exact first.resumes wholeNeverFails secondNeverFails intentId _ distinctIds (by simp)
      (fun someNew => (someNew rfl).elim) firstState wholeState secondState

/-- The client that counts its calls and fails at one of them, or at none. -/
def Enforcement.failingAt (failing : Option Nat) : Enforcement Nat where
  create _ := ExceptT.mk fun calls =>
    (if failing = some calls then .error (.transport "down") else .ok s!"pdp-{calls}", calls + 1)
  update _ _ := ExceptT.mk fun calls =>
    (if failing = some calls then .error (.transport "down") else .ok (), calls + 1)
  delete _ := ExceptT.mk fun calls =>
    (if failing = some calls then .error (.transport "down") else .ok (), calls + 1)

/-- The client that fails at no call never fails. -/
theorem Enforcement.failingAt_neverFails : (Enforcement.failingAt none).NeverFails where
  create _ _ := rfl
  update _ _ _ := rfl
  delete _ _ := rfl

/-- The reconciler of the client that fails at one call, with numbered identifiers. -/
def Reconciler.failingAt (failing : Option Nat) : Reconciler Nat where
  enforcement := .failingAt failing
  newId calls := (s!"record-{calls}", calls)

/-- A record is overwritten, another one is left as it is, and a third cannot be created. -/
theorem reconcile_resumes_at_second_call :
    let old : List PolicyRecord :=
      [⟨"b", "intent", "pdp-b", .baselineFor "bob", ⟨2, 0⟩, ⟨2, 0⟩⟩,
        ⟨"a", "intent", "pdp-a", .baselineFor "ann", ⟨1, 0⟩, ⟨1, 0⟩⟩]
    let new : List Policy := [.baselineFor "cat", .baselineFor "bob", .baselineFor "dan"]
    let attempt :=
      (Reconciler.failingAt (some 1)).recorded.reconcile "intent" old new ⟨3, 0⟩ ⟨0, []⟩
    let planned := (Reconciler.failingAt none).recorded.reconcile "intent" old new ⟨3, 0⟩ ⟨0, []⟩
    let resumed := (Reconciler.failingAt none).recorded.reconcile "intent"
      (amended old attempt.1.applied) new ⟨4, 0⟩ ⟨0, []⟩
    attempt.1.interruption = some ⟨"dan", .transport "down"⟩ ∧
      Resumes attempt planned resumed new := by
  intro old new attempt planned resumed
  constructor
  · have ordered : oldestFirst old = [old[1], old[0]] :=
      oldestFirst_eq_of_perm (by decide +kernel) (by decide)
    have attemptEq : attempt = (Reconciler.failingAt (some 1)).recorded.carryOut "intent" ⟨3, 0⟩
        (alignedPlan [old[1], old[0]] new) {} ⟨0, []⟩ := by
      rw [← ordered]
      rfl
    rw [attemptEq]
    decide +kernel
  · have resumption := reconcile_resumes (.failingAt (some 1)) (.failingAt none) (.failingAt none)
      (.failingAt none) Enforcement.failingAt_neverFails Enforcement.failingAt_neverFails "intent"
      old new ⟨3, 0⟩ ⟨4, 0⟩ (by decide) 0 0 0 ⟨0, []⟩
    exact (resumption.1 (by decide) (by decide)).1

end IntentPolicy
