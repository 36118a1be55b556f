import IntentPolicy.Proofs.Reconciliation.Alignment

namespace IntentPolicy

/-!
# Plans are positional edit scripts

Among all lists of steps there is one that treats every record once, oldest first, puts every
policy in its place once and is ordered in phases.  The plan is this list, so it does not
depend on the order in which the records are stored.
-/

/-- A step puts a policy in place: on a record that holds it, on one that does not, or anew. -/
inductive PlanStep.Places : PlanStep → Policy → Prop
  | unchanged {record : PolicyRecord} {policy : Policy}
      (holds : record.policy.agrees policy = true) :
      Places (.unchanged record) policy
  | update {record : PolicyRecord} {policy : Policy}
      (differs : record.policy.agrees policy = false) :
      Places (.update record policy) policy
  | create {policy : Policy} : Places (.create policy) policy

/-- A record that stays is given its policy. -/
theorem PlanStep.places_keep
    (record : PolicyRecord)
    (policy : Policy) :
    (keep record policy).Places policy := by
  rw [keep]
  split
  · next holds => exact .unchanged holds
  · next differs => exact .update (Bool.eq_false_iff.mpr differs)

/-- A step that puts a policy in place on a record keeps the record for it. -/
theorem PlanStep.Places.eq_keep
    {step : PlanStep}
    {record : PolicyRecord}
    {policy : Policy}
    (places : step.Places policy)
    (about : step.record? = some record) :
    step = keep record policy := by
  cases places with
  | unchanged holds =>
      obtain rfl := Option.some.inj about
      exact (if_pos holds).symm
  | update differs =>
      obtain rfl := Option.some.inj about
      exact (if_neg (Bool.eq_false_iff.mp differs)).symm
  | create => cases about

/-- A script opens with as many deletions as there are surplus records, and closes with the
creations behind all records. -/
structure InPhases (records policies : Nat) (script : List PlanStep) : Prop where
  deletesFirst : ∀ place step, script[place]? = some step →
    (step.isDelete = true ↔ place < records - policies)
  createsLast : ∀ place step, script[place]? = some step →
    (step.record? = none ↔ records ≤ place)

/-- A script that treats records in their order, and puts policies in place in theirs. -/
structure IsAligned (pending : List PolicyRecord) (left : List Policy)
    (script : List PlanStep) : Prop where
  records : script.filterMap PlanStep.record? = pending
  policies : List.Forall₂ PlanStep.Places (script.filter fun step => !step.isDelete) left
  phases : InPhases pending.length left.length script

/-- A script that turns old records into new policies by position: every record is in one
step, oldest first, and every policy is put in place by one step, in their order. -/
structure IsEditScript (old : List PolicyRecord) (new : List Policy)
    (script : List PlanStep) : Prop where
  records : (script.filterMap PlanStep.record?).Perm old
  ordered : (script.filterMap PlanStep.record?).Pairwise PolicyRecord.Precedes
  policies : List.Forall₂ PlanStep.Places (script.filter fun step => !step.isDelete) new
  phases : InPhases old.length new.length script

section Opening

variable {pending pendingBehind : List PolicyRecord} {left leftBehind : List Policy}
  {step : PlanStep} {behind : List PlanStep}

theorem alignedPlan_of_opens
    (opens : Opens pending left step pendingBehind leftBehind) :
    alignedPlan pending left = step :: alignedPlan pendingBehind leftBehind := by
  cases opens with
  | delete surplus => exact alignedPlan_delete surplus
  | keep enough => exact alignedPlan_keep enough
  | create => exact alignedPlan_create

/-- A plan opens with a deletion as long as there is a surplus. -/
theorem Opens.isDelete_iff
    (opens : Opens pending left step pendingBehind leftBehind) :
    step.isDelete = true ↔ 0 < pending.length - left.length := by
  cases opens with
  | delete surplus =>
      simp only [PlanStep.isDelete, List.length_cons, true_iff]
      omega
  | keep enough =>
      simp only [PlanStep.isDelete_keep, List.length_cons, Bool.false_eq_true, false_iff]
      omega
  | create => simp [PlanStep.isDelete]

/-- A plan opens with a creation as soon as there are no records. -/
theorem Opens.record?_eq_none_iff
    (opens : Opens pending left step pendingBehind leftBehind) :
    step.record? = none ↔ pending.length = 0 := by
  cases opens with
  | delete surplus => simp [PlanStep.record?]
  | keep enough => simp [PlanStep.record?_keep]
  | create => simp [PlanStep.record?]

theorem Opens.length_eq
    (opens : Opens pending left step pendingBehind leftBehind) :
    pendingBehind.length = pending.length - 1 ∧
      pendingBehind.length - leftBehind.length = pending.length - left.length - 1 := by
  cases opens with
  | delete surplus =>
      rw [List.length_cons]
      omega
  | keep enough =>
      rw [List.length_cons, List.length_cons]
      omega
  | create => simp

/-- The step that opens a plan stands in its phase. -/
theorem Opens.inPhases_iff
    (opens : Opens pending left step pendingBehind leftBehind) :
    InPhases pending.length left.length (step :: behind) ↔
      InPhases pendingBehind.length leftBehind.length behind := by
  obtain ⟨oneLess, surplusBehind⟩ := opens.length_eq
  have deletes := opens.isDelete_iff
  have creates := opens.record?_eq_none_iff
  constructor
  · rintro ⟨deletesFirst, createsLast⟩
    constructor
    · intro place other found
      rw [deletesFirst (place + 1) other found]
      omega
    · intro place other found
      rw [createsLast (place + 1) other found]
      omega
  · rintro ⟨deletesFirst, createsLast⟩
    constructor
    · rintro (_ | place) other found
      · obtain rfl := Option.some.inj found
        exact deletes
      · rw [deletesFirst place other found]
        omega
    · rintro (_ | place) other found
      · obtain rfl := Option.some.inj found
        rw [creates, Nat.le_zero]
      · rw [createsLast place other found]
        omega

/-- In front of an aligned script the step that opens the plan is aligned. -/
theorem IsAligned.cons
    (opens : Opens pending left step pendingBehind leftBehind)
    (aligned : IsAligned pendingBehind leftBehind behind) :
    IsAligned pending left (step :: behind) := by
  obtain ⟨records, policies, phases⟩ := aligned
  refine ⟨?_, ?_, opens.inPhases_iff.mpr phases⟩
  · cases opens with
    | delete surplus => exact congrArg _ records
    | keep enough => rw [List.filterMap_cons, PlanStep.record?_keep, records]
    | create => exact records
  · cases opens with
    | delete surplus => exact policies
    | keep enough =>
        rw [List.filter_cons_of_pos (by rw [PlanStep.isDelete_keep]; rfl)]
        exact .cons (PlanStep.places_keep _ _) policies
    | create => exact .cons .create policies

/-- A step that puts a policy in place is no deletion, so it stands where there is no surplus. -/
theorem InPhases.length_le
    {records policies : Nat}
    (phases : InPhases records policies (step :: behind))
    (stays : step.isDelete = false) :
    records ≤ policies := by
  have noSurplus : ¬ 0 < records - policies := by
    rw [← phases.deletesFirst 0 step rfl, stays]
    exact Bool.false_ne_true
  omega

/-- An aligned script opens as the plan does, and goes on aligned with what is left. -/
theorem IsAligned.exists_opens
    (aligned : IsAligned pending left (step :: behind)) :
    ∃ pendingBehind leftBehind, Opens pending left step pendingBehind leftBehind ∧
      IsAligned pendingBehind leftBehind behind := by
  obtain ⟨rfl, policies, phases⟩ := aligned
  have opening {pendingBehind : List PolicyRecord} {leftBehind : List Policy}
      (opens : Opens ((step :: behind).filterMap PlanStep.record?) left step pendingBehind leftBehind)
      (records : behind.filterMap PlanStep.record? = pendingBehind)
      (policiesBehind : List.Forall₂ PlanStep.Places (behind.filter fun step => !step.isDelete)
        leftBehind) :
      ∃ pendingBehind leftBehind,
        Opens ((step :: behind).filterMap PlanStep.record?) left step pendingBehind leftBehind ∧
          IsAligned pendingBehind leftBehind behind :=
    ⟨_, _, opens, records, policiesBehind, opens.inPhases_iff.mp phases⟩
  cases step with
  | delete record =>
      have surplus : 0 < (behind.filterMap PlanStep.record?).length + 1 - left.length :=
        (phases.deletesFirst 0 _ rfl).mp rfl
      exact opening (.delete (by omega)) rfl policies
  | unchanged record | update record policy =>
      have enough := phases.length_le rfl
      cases policies with
      | cons places policiesBehind =>
          refine opening ?_ rfl policiesBehind
          change Opens (record :: _) _ _ _ _
          rw [places.eq_keep rfl]
          exact .keep (Nat.le_of_succ_le_succ enough)
  | create policy =>
      have noRecords : behind.filterMap PlanStep.record? = [] :=
        List.length_eq_zero_iff.mp (Nat.le_zero.mp ((phases.createsLast 0 _ rfl).mp rfl))
      cases policies with
      | cons places policiesBehind =>
          cases places with
          | create =>
              refine opening ?_ noRecords policiesBehind
              rw [List.filterMap_cons_none rfl, noRecords]
              exact .create

end Opening

/-- The plan for records and policies is the only script that is aligned with them. -/
theorem isAligned_iff
    {pending : List PolicyRecord}
    {left : List Policy}
    {script : List PlanStep} :
    IsAligned pending left script ↔ script = alignedPlan pending left := by
  constructor
  · intro aligned
    induction script generalizing pending left with
    | nil =>
        obtain ⟨rfl, policies, -⟩ := aligned
        cases policies
        rfl
    | cons step behind inductionHypothesis =>
        obtain ⟨pendingBehind, leftBehind, opens, alignedBehind⟩ := aligned.exists_opens
        rw [alignedPlan_of_opens opens, inductionHypothesis alignedBehind]
  · rintro rfl
    induction plan : alignedPlan pending left generalizing pending left with
    | nil =>
        obtain ⟨rfl, rfl⟩ := nil_of_alignedPlan plan
        exact ⟨rfl, .nil, ⟨fun _ _ => by simp, fun _ _ => by simp⟩⟩
    | cons step behind inductionHypothesis =>
        obtain ⟨pendingBehind, leftBehind, opens, planBehind⟩ := opens_of_alignedPlan plan
        exact .cons opens (inductionHypothesis planBehind.symm)

/-- An edit script is one that is aligned with the ordered records. -/
theorem isEditScript_iff
    {old : List PolicyRecord}
    {new : List Policy}
    {script : List PlanStep}
    (distinctIds : (old.map (·.id)).Nodup) :
    IsEditScript old new script ↔ IsAligned (oldestFirst old) new script := by
  have sameLength : (oldestFirst old).length = old.length := (oldestFirst_perm old).length_eq
  constructor
  · rintro ⟨records, ordered, policies, phases⟩
    exact ⟨(oldestFirst_eq_of_perm ordered records.symm).symm, policies, sameLength ▸ phases⟩
  · rintro ⟨records, policies, phases⟩
    refine ⟨?_, ?_, policies, sameLength ▸ phases⟩
    · rw [records]
      exact oldestFirst_perm old
    · rw [records]
      exact oldestFirst_strict distinctIds

/--
The plan is the only edit script.  It deletes the surplus of the oldest records, gives every
other record the policy at its position, with an overwriting exactly where the policies differ,
and creates the missing ones; how the records are stored does not matter.
-/
theorem edit_script_iff_plan
    (old : List PolicyRecord)
    (new : List Policy)
    (distinctIds : (old.map (·.id)).Nodup) :
    (∀ script, IsEditScript old new script ↔ script = planReconciliation old new) ∧
      ∀ other, other.Perm old → planReconciliation other new = planReconciliation old new := by
  constructor
  · intro script
    rw [isEditScript_iff distinctIds, planReconciliation_eq, isAligned_iff]
  · intro other same
    have sameOrder : oldestFirst other = oldestFirst old :=
      oldestFirst_eq_of_perm (oldestFirst_strict distinctIds)
        (same.trans (oldestFirst_perm old).symm)
    rw [planReconciliation_eq, planReconciliation_eq, sameOrder]

/-- Of two records that were created at one time the one with the lesser identifier goes. -/
theorem edit_script_iff_plan_of_same_time :
    let old : List PolicyRecord :=
      [⟨"z", "intent", "pdp-z", .baselineFor "zoe", ⟨1, 0⟩, ⟨1, 0⟩⟩,
        ⟨"m", "intent", "pdp-m", .baselineFor "max", ⟨1, 0⟩, ⟨1, 0⟩⟩]
    let new : List Policy := [.baselineFor "max"]
    (old.map (·.id)).Nodup ∧
      IsEditScript old new [.delete old[1], .update old[0] (.baselineFor "max")] ∧
      planReconciliation old.reverse new = planReconciliation old new := by
  intro old new
  have distinctIds : (old.map (·.id)).Nodup := by decide
  have ordered : oldestFirst old = [old[1], old[0]] :=
    oldestFirst_eq_of_perm (by decide +kernel) (by decide)
  obtain ⟨onlyScript, anyOrder⟩ := edit_script_iff_plan old new distinctIds
  refine ⟨distinctIds, (onlyScript _).mpr ?_, anyOrder _ (List.reverse_perm old)⟩
  rw [planReconciliation_eq, ordered]
  decide +kernel

end IntentPolicy
