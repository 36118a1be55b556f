import IntentPolicy.Proofs.Reconciliation.Order
import IntentPolicy.Proofs.Reconciliation.Recording
import Mathlib.Data.List.Forall2

namespace IntentPolicy

/-!
# Plans step by step

A plan pairs ordered records with policies from the front, as soon as there are no more
records than policies.  Behind every step stands the plan for what is left, so a plan can
be followed while it is carried out.
-/

/-- The plan that turns records, oldest first, into policies. -/
def alignedPlan (ordered : List PolicyRecord) (new : List Policy) : List PlanStep :=
  let surplus := ordered.length - new.length
  let kept := ordered.drop surplus
  (ordered.take surplus).map .delete ++ List.zipWith .keep kept new
    ++ (new.drop kept.length).map .create

theorem planReconciliation_eq
    (old : List PolicyRecord)
    (new : List Policy) :
    planReconciliation old new = alignedPlan (oldestFirst old) new :=
  rfl

/-- Withdrawing records is turning them into no policies. -/
theorem planRetirement_eq
    (records : List PolicyRecord) :
    planRetirement records = planReconciliation records [] := by
  simp [planRetirement, planReconciliation]

/-- To withdraw records is to turn them into no policies, at whatever time. -/
theorem Reconciler.retire_eq_reconcile
    {State : Type}
    (reconciler : Reconciler State)
    (intentId : String)
    (records : List PolicyRecord) :
    reconciler.retire intentId records = reconciler.reconcile intentId records [] ⟨0, 0⟩ := by
  rw [Reconciler.retire, Reconciler.reconcile, planRetirement_eq]

section AlignedPlan

variable {record : PolicyRecord} {rest : List PolicyRecord} {policy : Policy}
  {policies : List Policy}

/-- Of more records than policies the first goes. -/
theorem alignedPlan_delete
    (surplus : policies.length ≤ rest.length) :
    alignedPlan (record :: rest) policies = .delete record :: alignedPlan rest policies := by
  have oneMore : (record :: rest).length - policies.length = rest.length - policies.length + 1 := by
    rw [List.length_cons]
    omega
  simp only [alignedPlan, oneMore, List.take_succ_cons, List.drop_succ_cons, List.map_cons,
    List.cons_append]

/-- Of no more records than policies the first is kept for the first policy. -/
theorem alignedPlan_keep
    (enough : rest.length ≤ policies.length) :
    alignedPlan (record :: rest) (policy :: policies) =
      .keep record policy :: alignedPlan rest policies := by
  have noSurplus : rest.length + 1 - (policies.length + 1) = 0 := by omega
  have noneLeft : rest.length - policies.length = 0 := by omega
  simp only [alignedPlan, noSurplus, noneLeft, List.take_zero, List.drop_zero, List.map_nil,
    List.nil_append, List.zipWith_cons_cons, List.cons_append, List.length_cons,
    List.drop_succ_cons]

theorem alignedPlan_create :
    alignedPlan [] (policy :: policies) = .create policy :: alignedPlan [] policies := by
  simp [alignedPlan]

theorem alignedPlan_nil : alignedPlan [] [] = [] :=
  rfl

/-- The first step of a plan and the plan behind it. -/
inductive Opens : List PolicyRecord → List Policy → PlanStep →
    List PolicyRecord → List Policy → Prop
  | delete {record : PolicyRecord} {rest : List PolicyRecord} {policies : List Policy}
      (surplus : policies.length ≤ rest.length) :
      Opens (record :: rest) policies (.delete record) rest policies
  | keep {record : PolicyRecord} {rest : List PolicyRecord} {policy : Policy}
      {policies : List Policy}
      (enough : rest.length ≤ policies.length) :
      Opens (record :: rest) (policy :: policies) (.keep record policy) rest policies
  | create {policy : Policy} {policies : List Policy} :
      Opens [] (policy :: policies) (.create policy) [] policies

/-- A plan that is not empty opens with a step and goes on as the plan for what is left. -/
theorem opens_of_alignedPlan
    {pending : List PolicyRecord}
    {left : List Policy}
    {step : PlanStep}
    {behind : List PlanStep}
    (plan : alignedPlan pending left = step :: behind) :
    ∃ pendingBehind leftBehind, Opens pending left step pendingBehind leftBehind ∧
      behind = alignedPlan pendingBehind leftBehind := by
  cases pending with
  | nil =>
      cases left with
      | nil => cases plan
      | cons policy policies =>
          rw [alignedPlan_create] at plan
          obtain ⟨rfl, rfl⟩ := List.cons.inj plan
          exact ⟨[], policies, .create, rfl⟩
  | cons record rest =>
      by_cases surplus : left.length ≤ rest.length
      · rw [alignedPlan_delete surplus] at plan
        obtain ⟨rfl, rfl⟩ := List.cons.inj plan
        exact ⟨rest, left, .delete surplus, rfl⟩
      · cases left with
        | nil => exact (surplus (Nat.zero_le _)).elim
        | cons policy policies =>
            have enough : rest.length ≤ policies.length := by
              rw [List.length_cons] at surplus
              omega
            rw [alignedPlan_keep enough] at plan
            obtain ⟨rfl, rfl⟩ := List.cons.inj plan
            exact ⟨rest, policies, .keep enough, rfl⟩

/-- Only without records and policies there is nothing to do. -/
theorem nil_of_alignedPlan
    {pending : List PolicyRecord}
    {left : List Policy}
    (plan : alignedPlan pending left = []) :
    pending = [] ∧ left = [] := by
  cases pending with
  | nil =>
      cases left with
      | nil => exact ⟨rfl, rfl⟩
      | cons policy policies =>
          rw [alignedPlan_create] at plan
          cases plan
  | cons record rest =>
      by_cases surplus : left.length ≤ rest.length
      · rw [alignedPlan_delete surplus] at plan
        cases plan
      · cases left with
        | nil => exact (surplus (Nat.zero_le _)).elim
        | cons policy policies =>
            rw [alignedPlan_keep (by rw [List.length_cons] at surplus; omega)] at plan
            cases plan

/-- A plan is about every record once, in their order. -/
theorem records_of_alignedPlan
    (pending : List PolicyRecord)
    (left : List Policy) :
    (alignedPlan pending left).filterMap PlanStep.record? = pending := by
  -- On the plan, not on the records: a step may take a record, a policy or both.
  induction plan : alignedPlan pending left generalizing pending left with
  | nil =>
      obtain ⟨rfl, -⟩ := nil_of_alignedPlan plan
      rfl
  | cons step behind inductionHypothesis =>
      obtain ⟨pendingBehind, leftBehind, opens, planBehind⟩ := opens_of_alignedPlan plan
      have recordsBehind := inductionHypothesis pendingBehind leftBehind planBehind.symm
      rw [List.filterMap_cons, recordsBehind]
      cases opens with
      | delete => rfl
      | keep => rw [PlanStep.record?_keep]
      | create => rfl

/-- A plan deletes and keeps none but the records, and puts none but the policies in place. -/
theorem mem_alignedPlan
    {pending : List PolicyRecord}
    {left : List Policy}
    {step : PlanStep}
    (planned : step ∈ alignedPlan pending left) :
    (∃ record ∈ pending, step = .delete record) ∨
      (∃ record ∈ pending, ∃ policy ∈ left, step = .keep record policy) ∨
        ∃ policy ∈ left, step = .create policy := by
  induction plan : alignedPlan pending left generalizing pending left with
  | nil =>
      rw [plan] at planned
      cases planned
  | cons first behind inductionHypothesis =>
      obtain ⟨pendingBehind, leftBehind, opens, planBehind⟩ := opens_of_alignedPlan plan
      have later (member : step ∈ behind) := inductionHypothesis (planBehind ▸ member) planBehind.symm
      rw [plan, List.mem_cons] at planned
      have subset : (∀ record ∈ pendingBehind, record ∈ pending) ∧
          ∀ policy ∈ leftBehind, policy ∈ left := by
        cases opens <;> simp +contextual
      rcases planned with rfl | member
      · cases opens with
        | delete => exact Or.inl ⟨_, List.mem_cons_self, rfl⟩
        | keep => exact Or.inr (Or.inl ⟨_, List.mem_cons_self, _, List.mem_cons_self, rfl⟩)
        | create => exact Or.inr (Or.inr ⟨_, List.mem_cons_self, rfl⟩)
      · rcases later member with
          ⟨record, pends, deletes⟩ | ⟨record, pends, policy, wanted, keeps⟩ | ⟨policy, wanted, creates⟩
        · exact Or.inl ⟨record, subset.1 record pends, deletes⟩
        · exact Or.inr (Or.inl ⟨record, subset.1 record pends, policy, subset.2 policy wanted, keeps⟩)
        · exact Or.inr (Or.inr ⟨policy, subset.2 policy wanted, creates⟩)

/-- A plan for records and policies keeps one of the records. -/
theorem exists_keep_of_alignedPlan
    {pending : List PolicyRecord}
    {left : List Policy}
    (someRecord : pending ≠ [])
    (somePolicy : left ≠ []) :
    ∃ record policy, PlanStep.keep record policy ∈ alignedPlan pending left := by
  induction pending with
  | nil => exact (someRecord rfl).elim
  | cons record rest inductionHypothesis =>
      by_cases surplus : left.length ≤ rest.length
      · have oneLeft : 0 < rest.length :=
          Nat.lt_of_lt_of_le (List.length_pos_of_ne_nil somePolicy) surplus
        obtain ⟨kept, policy, member⟩ :=
          inductionHypothesis (List.ne_nil_of_length_pos oneLeft)
        rw [alignedPlan_delete surplus]
        exact ⟨kept, policy, List.mem_cons_of_mem _ member⟩
      · obtain ⟨policy, policies, rfl⟩ := List.exists_cons_of_ne_nil somePolicy
        rw [List.length_cons, Nat.not_le] at surplus
        rw [alignedPlan_keep (Nat.le_of_lt_succ surplus)]
        exact ⟨record, policy, List.mem_cons_self⟩

/-- Records that already hold the policies in front are left as they are. -/
theorem alignedPlan_append
    {held : List PolicyRecord}
    {holds : List Policy}
    (agree : List.Forall₂ (fun record policy => record.policy.agrees policy = true) held holds)
    (enough : rest.length ≤ policies.length) :
    alignedPlan (held ++ rest) (holds ++ policies) =
      held.map .unchanged ++ alignedPlan rest policies := by
  induction agree with
  | nil => rfl
  | cons sameHere sameBehind inductionHypothesis =>
      have enoughBehind := sameBehind.length_eq
      rw [List.cons_append, List.cons_append, alignedPlan_keep, PlanStep.keep, if_pos sameHere,
        inductionHypothesis, List.map_cons, List.cons_append]
      simp only [List.length_append]
      omega

end AlignedPlan

end IntentPolicy
