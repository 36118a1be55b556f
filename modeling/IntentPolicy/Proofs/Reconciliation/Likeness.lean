import IntentPolicy.Proofs.Reconciliation.Alignment
import IntentPolicy.Proofs.Reconciliation.Following
import IntentPolicy.Proofs.Store.RowReading

namespace IntentPolicy

/-!
# Plans that are carried out alike

Records that were read back from rows lead to the same plan as the records that were stored, and
carrying it out asks for the same calls.  What is written afterwards is the same to the
microsecond.
-/

/-- Records that rows give back as one. -/
def PolicyRecord.IsLike (left right : PolicyRecord) : Prop :=
  left.stored = right.stored

namespace PolicyRecord.IsLike

variable {left right : PolicyRecord}

theorem id (like : left.IsLike right) : left.id = right.id := by
  have same : left.stored.id = right.stored.id := by rw [like]
  exact same

theorem externalId (like : left.IsLike right) : left.externalId = right.externalId := by
  have same : left.stored.externalId = right.stored.externalId := by rw [like]
  exact same

theorem intentId (like : left.IsLike right) : left.intentId = right.intentId := by
  have same : left.stored.intentId = right.stored.intentId := by rw [like]
  exact same

theorem createdAt (like : left.IsLike right) : left.createdAt.cut = right.createdAt.cut := by
  have same : left.stored.createdAt = right.stored.createdAt := by rw [like]
  exact same

theorem user (like : left.IsLike right) : left.policy.user = right.policy.user := by
  have same : left.stored.policy.user = right.stored.policy.user := by rw [like]
  exact same

/-- Like records are renewed to records that are written alike. -/
theorem renewed
    (like : left.IsLike right)
    {now later : Instant}
    (sameNow : now.cut = later.cut)
    (externalId : String)
    (policy : Policy) :
    (left.renewed externalId policy now).cut = (right.renewed externalId policy later).cut := by
  simp only [PolicyRecord.cut, PolicyRecord.renewed, like.id, like.intentId, like.createdAt,
    sameNow]

end PolicyRecord.IsLike

/-- Steps about like records and the same policies. -/
inductive PlanStep.IsLike : PlanStep → PlanStep → Prop
  | delete {left right : PolicyRecord} (like : left.IsLike right) :
      IsLike (.delete left) (.delete right)
  | update {left right : PolicyRecord} (like : left.IsLike right) (policy : Policy) :
      IsLike (.update left policy) (.update right policy)
  | unchanged {left right : PolicyRecord} (like : left.IsLike right) :
      IsLike (.unchanged left) (.unchanged right)
  | create (policy : Policy) : IsLike (.create policy) (.create policy)

/-- The step for a record that was read back. -/
def PlanStep.stored : PlanStep → PlanStep
  | .delete record => .delete record.stored
  | .update record policy => .update record.stored policy
  | .unchanged record => .unchanged record.stored
  | .create policy => .create policy

theorem PlanStep.isLike_stored (step : PlanStep) : step.IsLike step.stored := by
  have like (record : PolicyRecord) : record.IsLike record.stored := record.stored_stored.symm
  cases step with
  | delete record => exact .delete (like record)
  | update record policy => exact .update (like record) policy
  | unchanged record => exact .unchanged (like record)
  | create policy => exact .create policy

/-- Changes that are written alike. -/
inductive AppliedStep.IsLike : AppliedStep → AppliedStep → Prop
  | created {left right : PolicyRecord} (same : left.cut = right.cut) :
      IsLike (.created left) (.created right)
  | updated {left right : PolicyRecord} (same : left.cut = right.cut) :
      IsLike (.updated left) (.updated right)
  | deleted {left right : PolicyRecord} (like : left.IsLike right) :
      IsLike (.deleted left) (.deleted right)

/-- Executions that have left like records, changed the same and stopped at the same call. -/
structure Execution.IsLike (left right : Execution) : Prop where
  records : List.Forall₂ PolicyRecord.IsLike left.records right.records
  applied : List.Forall₂ AppliedStep.IsLike left.applied right.applied
  interruption : left.interruption = right.interruption

theorem Execution.IsLike.created_eq
    {left right : Execution}
    (like : left.IsLike right) :
    left.created = right.created := by
  have sameCount {changes others : List AppliedStep}
      (alike : List.Forall₂ AppliedStep.IsLike changes others) :
      changes.countP AppliedStep.isCreated = others.countP AppliedStep.isCreated := by
    induction alike with
    | nil => rfl
    | cons likeHere _ inductionHypothesis =>
        rw [List.countP_cons, List.countP_cons, inductionHypothesis]
        cases likeHere <;> rfl
  exact sameCount like.applied

theorem Execution.IsLike.isEmpty_eq
    {left right : Execution}
    (like : left.IsLike right) :
    left.applied.isEmpty = right.applied.isEmpty := by
  rw [Bool.eq_iff_iff, List.isEmpty_iff_length_eq_zero, List.isEmpty_iff_length_eq_zero,
    like.applied.length_eq]

theorem Execution.IsLike.failureMessage_eq
    {left right : Execution}
    (like : left.IsLike right)
    (interruption : Interruption) :
    left.failureMessage interruption = right.failureMessage interruption := by
  unfold Execution.failureMessage
  rw [like.applied.length_eq]

theorem newRecord_cut
    {now later : Instant}
    (id intentId externalId : String)
    (policy : Policy)
    (sameNow : now.cut = later.cut)
    (created : Nat) :
    (newRecord id intentId externalId policy now created).cut =
      (newRecord id intentId externalId policy later created).cut := by
  simp only [PolicyRecord.cut, newRecord, Instant.cut_addMicroseconds, sameNow]

section Plans

variable {records : List PolicyRecord}

/-- Records in whole microseconds keep their order when they are read back. -/
theorem oldestFirst_map_stored
    (whole : ∀ record ∈ records, record.createdAt.cut = record.createdAt) :
    oldestFirst (records.map PolicyRecord.stored) =
      (oldestFirst records).map PolicyRecord.stored := by
  refine (List.map_mergeSort fun left leftMember right rightMember => ?_).symm
  have leftWhole : left.stored.createdAt = left.createdAt := whole left leftMember
  have rightWhole : right.stored.createdAt = right.createdAt := whole right rightMember
  rw [PolicyRecord.isOlder, PolicyRecord.isOlder, leftWhole, rightWhole]
  rfl

theorem PlanStep.keep_stored
    (record : PolicyRecord)
    (policy : Policy) :
    PlanStep.keep record.stored policy = (PlanStep.keep record policy).stored := by
  have sameAgreement : record.stored.policy.agrees policy = record.policy.agrees policy :=
    Policy.stored_agrees _ _
  rw [PlanStep.keep, PlanStep.keep, sameAgreement]
  split
  · rfl
  · rfl

theorem alignedPlan_map_stored
    (pending : List PolicyRecord)
    (left : List Policy) :
    alignedPlan (pending.map PolicyRecord.stored) left =
      (alignedPlan pending left).map PlanStep.stored := by
  induction pending generalizing left with
  | nil =>
      induction left with
      | nil => rfl
      | cons policy policies inductionHypothesis =>
          rw [List.map_nil] at inductionHypothesis ⊢
          rw [alignedPlan_create, List.map_cons, ← inductionHypothesis]
          rfl
  | cons record rest inductionHypothesis =>
      rw [List.map_cons]
      by_cases surplus : left.length ≤ rest.length
      · rw [alignedPlan_delete surplus, alignedPlan_delete (by rwa [List.length_map]),
          List.map_cons, inductionHypothesis]
        rfl
      · cases left with
        | nil => exact (surplus (Nat.zero_le _)).elim
        | cons policy policies =>
            have enough : rest.length ≤ policies.length := by
              rw [List.length_cons] at surplus
              omega
            rw [alignedPlan_keep enough, alignedPlan_keep (by rwa [List.length_map]),
              List.map_cons, inductionHypothesis, PlanStep.keep_stored]

/-- Records that were read back lead to the plan of the records that were stored. -/
theorem planReconciliation_map_stored
    (whole : ∀ record ∈ records, record.createdAt.cut = record.createdAt)
    (policies : List Policy) :
    planReconciliation (records.map PolicyRecord.stored) policies =
      (planReconciliation records policies).map PlanStep.stored := by
  rw [planReconciliation_eq, planReconciliation_eq, oldestFirst_map_stored whole,
    alignedPlan_map_stored]

theorem planReconciliation_isLike
    (whole : ∀ record ∈ records, record.createdAt.cut = record.createdAt)
    (policies : List Policy) :
    List.Forall₂ PlanStep.IsLike (planReconciliation records policies)
      (planReconciliation (records.map PolicyRecord.stored) policies) := by
  rw [planReconciliation_map_stored whole, List.forall₂_map_right_iff, List.forall₂_same]
  exact fun step _ => step.isLike_stored

end Plans

namespace Reconciler

variable {Left Right : Type}

/-- Two reconcilers that answer alike in related states. -/
structure Matches (related : Left → Right → Prop) (left : Reconciler Left)
    (right : Reconciler Right) : Prop where
  create : ∀ policy before after, related before after →
    Follows False related (fun externalId other _ => externalId = other)
      ((left.enforcement.create policy).run before) ((right.enforcement.create policy).run after)
  update : ∀ externalId policy before after, related before after →
    Follows False related (fun _ _ _ => True)
      ((left.enforcement.update externalId policy).run before)
      ((right.enforcement.update externalId policy).run after)
  delete : ∀ externalId before after, related before after →
    Follows False related (fun _ _ _ => True)
      ((left.enforcement.delete externalId).run before)
      ((right.enforcement.delete externalId).run after)
  newId : ∀ before after, related before after →
    (left.newId before).1 = (right.newId after).1 ∧
      related (left.newId before).2 (right.newId after).2

variable {related : Left → Right → Prop} {left : Reconciler Left} {right : Reconciler Right}
  {intentId : String} {now later : Instant}

/-- Like steps end alike. -/
theorem Matches.carryOutStep
    {step other : PlanStep}
    {before : Left}
    {otherBefore : Right}
    (doMatch : left.Matches related right)
    (sameNow : now.cut = later.cut)
    (like : step.IsLike other)
    (created : Nat)
    (isRelated : related before otherBefore) :
    Follows False related
      (fun value otherValue _ =>
        List.Forall₂ PolicyRecord.IsLike value.1.toList otherValue.1.toList ∧
          List.Forall₂ AppliedStep.IsLike value.2.toList otherValue.2.toList)
      ((left.carryOutStep intentId now created step).run before)
      ((right.carryOutStep intentId later created other).run otherBefore) := by
  cases like with
  | unchanged like =>
      rw [Reconciler.carryOutStep, Reconciler.carryOutStep]
      exact .pure ⟨.cons like .nil, .nil⟩ isRelated
  | @delete record read like =>
      rw [Reconciler.carryOutStep, Reconciler.carryOutStep, like.externalId, like.user]
      cases assigned : isAssigned read.externalId with
      | false =>
          exact .answered ⟨.nil, .cons (.deleted like) .nil⟩ isRelated
      | true =>
          simp only [↓reduceIte]
          refine .bind (.adapt _ (doMatch.delete _ _ _ isRelated)) ?_
          intro _ _ reached otherReached _ stillRelated
          exact .answered ⟨.nil, .cons (.deleted like) .nil⟩ stillRelated
  | @update record read like policy =>
      rw [Reconciler.carryOutStep, Reconciler.carryOutStep, like.externalId]
      have renewed (externalId : String) := like.renewed sameNow externalId policy
      cases assigned : isAssigned read.externalId with
      | false =>
          simp only [Bool.false_eq_true, ↓reduceIte]
          refine .bind (.adapt _ (doMatch.create policy _ _ isRelated)) ?_
          rintro externalId _ reached otherReached rfl stillRelated
          exact .answered ⟨.cons (PolicyRecord.stored_of_cut_eq (renewed externalId)) .nil,
            .cons (.updated (renewed externalId)) .nil⟩ stillRelated
      | true =>
          simp only [↓reduceIte]
          refine .bind (.adapt _ (doMatch.update _ policy _ _ isRelated)) ?_
          intro _ _ reached otherReached _ stillRelated
          exact .answered ⟨.cons (PolicyRecord.stored_of_cut_eq (renewed _)) .nil,
            .cons (.updated (renewed _)) .nil⟩ stillRelated
  | create policy =>
      rw [Reconciler.carryOutStep, Reconciler.carryOutStep]
      refine .bind (.adapt _ (doMatch.create policy _ _ isRelated)) ?_
      rintro externalId _ reached otherReached rfl stillRelated
      obtain ⟨sameId, drawnRelated⟩ := doMatch.newId _ _ stillRelated
      have drawn :
          (liftM left.newId : Action Left Interruption String).run reached =
            (.ok (left.newId reached).1, (left.newId reached).2) := rfl
      have otherDrawn :
          (liftM right.newId : Action Right Interruption String).run otherReached =
            (.ok (right.newId otherReached).1, (right.newId otherReached).2) := rfl
      rw [Action.run_bind_ok _ drawn, Action.run_bind_ok _ otherDrawn, ← sameId]
      have same := newRecord_cut (left.newId reached).1 intentId externalId policy sameNow created
      exact .answered ⟨.cons (PolicyRecord.stored_of_cut_eq same) .nil,
        .cons (.created same) .nil⟩ drawnRelated

/-- Like plans are carried out alike. -/
theorem Matches.carryOut
    {steps others : List PlanStep}
    {execution other : Execution}
    {before : Left}
    {otherBefore : Right}
    (doMatch : left.Matches related right)
    (sameNow : now.cut = later.cut)
    (likeSteps : List.Forall₂ PlanStep.IsLike steps others)
    (like : execution.IsLike other)
    (isRelated : related before otherBefore) :
    (left.carryOut intentId now steps execution before).1.IsLike
        (right.carryOut intentId later others other otherBefore).1 ∧
      related (left.carryOut intentId now steps execution before).2
        (right.carryOut intentId later others other otherBefore).2 := by
  induction likeSteps generalizing execution other before otherBefore with
  | nil => exact ⟨like, isRelated⟩
  | cons likeStep _ inductionHypothesis =>
      have follows : Follows False related _
          ((left.carryOutStep intentId now execution.created _).run _)
          ((right.carryOutStep intentId later execution.created _).run _) :=
        doMatch.carryOutStep sameNow likeStep execution.created isRelated
      rw [Reconciler.carryOut, Reconciler.carryOut, Action.bind_apply, Action.bind_apply,
        ← like.created_eq]
      generalize (left.carryOutStep intentId now execution.created _).run before = outcome
        at follows ⊢
      generalize (right.carryOutStep intentId later execution.created _).run otherBefore =
        otherOutcome at follows ⊢
      cases follows with
      | answered isAlike stillRelated =>
          obtain ⟨records, changes⟩ := isAlike
          exact inductionHypothesis ⟨List.rel_append like.records records,
            List.rel_append like.applied changes, like.interruption⟩ stillRelated
      | failed stillRelated => exact ⟨⟨like.records, like.applied, rfl⟩, stillRelated⟩
      | faulted impossible => exact impossible.elim

end Reconciler

end IntentPolicy
