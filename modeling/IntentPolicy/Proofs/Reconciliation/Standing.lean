import IntentPolicy.Proofs.Reconciliation.Alignment
import Mathlib.Data.List.Nodup

namespace IntentPolicy

/-!
# Where an execution stands

When a call fails, the changes that went through are carried out on the records.  The plan
for what they have become leaves alone what is done and goes on with what is left.
-/

/-- No value of the policy is a NaN. -/
structure Policy.IsNaNFree (policy : Policy) : Prop where
  popularity : policy.minPopularity.isNaN = false
  stability : policy.minStability.isNaN = false

instance (policy : Policy) : Decidable policy.IsNaNFree :=
  decidable_of_iff (policy.minPopularity.isNaN = false ∧ policy.minStability.isNaN = false)
    ⟨fun ⟨popularity, stability⟩ => ⟨popularity, stability⟩,
      fun ⟨popularity, stability⟩ => ⟨popularity, stability⟩⟩

/-- A policy without a NaN agrees with itself. -/
theorem Policy.IsNaNFree.agrees_self
    {policy : Policy}
    (nanFree : policy.IsNaNFree) :
    policy.agrees policy = true := by
  simp [agrees, Decimal.sameValue, Double.sameValue, nanFree.popularity, nanFree.stability]

/-- A policy that agrees with another one has no NaN. -/
theorem Policy.isNaNFree_of_agrees
    {left right : Policy}
    (agree : left.agrees right = true) :
    right.IsNaNFree := by
  simp only [agrees, Double.sameValue, Bool.and_eq_true, Bool.not_eq_true'] at agree
  grind [Policy.IsNaNFree]

/-- The records with one change carried out. -/
def amendedBy (records : List PolicyRecord) : AppliedStep → List PolicyRecord
  | .created record => records ++ [record]
  | .updated record => records.map fun other => if other.id = record.id then record else other
  | .deleted record => records.filter fun other => other.id ≠ record.id

/-- The records with all changes carried out. -/
def amended (records : List PolicyRecord) (applied : List AppliedStep) : List PolicyRecord :=
  applied.foldl amendedBy records

/-- Deleting one of several records with distinct identifiers leaves the others. -/
theorem amendedBy_deleted
    {record : PolicyRecord}
    {rest : List PolicyRecord}
    (distinctIds : ((record :: rest).map (·.id)).Nodup) :
    amendedBy (record :: rest) (.deleted record) = rest := by
  rw [List.map_cons, List.nodup_cons] at distinctIds
  rw [amendedBy, List.filter_cons_of_neg (by simp), List.filter_eq_self]
  intro other member
  have otherId : other.id ≠ record.id := by
    intro sameId
    exact distinctIds.1 (sameId ▸ List.mem_map_of_mem member)
  exact decide_eq_true otherId

/-- Overwriting one of several records with distinct identifiers keeps the others. -/
theorem amendedBy_updated
    {record overwritten : PolicyRecord}
    {front rest : List PolicyRecord}
    (sameId : overwritten.id = record.id)
    (distinctIds : ((front ++ record :: rest).map (·.id)).Nodup) :
    amendedBy (front ++ record :: rest) (.updated overwritten) = front ++ overwritten :: rest := by
  have apart : ∀ other ∈ front ++ rest, other.id ≠ overwritten.id := by
    rw [List.map_append, List.map_cons, List.nodup_middle, List.nodup_cons,
      ← List.map_append] at distinctIds
    intro other member otherId
    exact distinctIds.1 (sameId ▸ otherId ▸ List.mem_map_of_mem member)
  have keeps {others : List PolicyRecord} (within : ∀ other ∈ others, other ∈ front ++ rest) :
      (others.map fun other => if other.id = overwritten.id then overwritten else other) =
        others := by
    refine (List.map_congr_left fun other member => ?_).trans (List.map_id others)
    exact if_neg (apart other (within other member))
  rw [amendedBy, List.map_append, List.map_cons, if_pos sameId.symm,
    keeps fun other member => List.mem_append_left rest member,
    keeps fun other member => List.mem_append_right front member]

theorem amendedBy_perm
    {left right : List PolicyRecord}
    (same : left.Perm right)
    (change : AppliedStep) :
    (amendedBy left change).Perm (amendedBy right change) := by
  cases change with
  | created record => exact same.append_right [record]
  | updated record => exact same.map _
  | deleted record => exact same.filter _

/-- The records hold the policies, in their order. -/
def Hold (records : List PolicyRecord) (policies : List Policy) : Prop :=
  List.Forall₂ (fun record policy => record.policy.agrees policy = true) records policies

/--
Where an execution stands: which records are left to be treated, and for which policies.
The records as they have become are those that are done and those that are pending.
-/
structure Standing (now : Instant) (new : List Policy) (current : List PolicyRecord)
    (execution : Execution) (pending : List PolicyRecord) (left : List Policy) : Prop where
  same : current.Perm (execution.records ++ pending)
  strict : (execution.records ++ pending).Pairwise PolicyRecord.Precedes
  earlier : left ≠ [] → ∀ record ∈ execution.records ++ pending,
    record.createdAt.lt (now.addMicroseconds execution.created) = true
  distinctIds : pending ≠ [] → ((execution.records ++ pending).map (·.id)).Nodup
  holds : ∃ done, new = done ++ left ∧ Hold execution.records done
  phase : execution.records = [] ∨ pending.length ≤ left.length

namespace Standing

variable {now : Instant} {new left policies : List Policy} {policy : Policy}
  {current pending rest : List PolicyRecord} {record : PolicyRecord} {execution : Execution}

/-- Nothing is done before the surplus is gone. -/
theorem records_eq_nil
    (standing : Standing now new current execution (record :: rest) left)
    (surplus : left.length ≤ rest.length) :
    execution.records = [] := by
  rcases standing.phase with nothingDone | enough
  · exact nothingDone
  · rw [List.length_cons] at enough
    omega

/-- A surplus record is deleted. -/
theorem delete
    (standing : Standing now new current execution (record :: rest) left)
    (surplus : left.length ≤ rest.length) :
    Standing now new (amendedBy current (.deleted record))
      (execution.note none (some (.deleted record))) rest left := by
  have nothingDone := standing.records_eq_nil surplus
  obtain ⟨same, strict, earlier, distinctIds, holds, -⟩ := standing
  rw [nothingDone, List.nil_append] at same strict earlier distinctIds
  have sameCount :
      (execution.note none (some (.deleted record))).created = execution.created :=
    execution.created_note _ _
  have stillNothing : (execution.note none (some (.deleted record))).records = [] := by
    simp [Execution.note, nothingDone]
  constructor
  · rw [stillNothing, List.nil_append, ← amendedBy_deleted (distinctIds (by simp))]
    exact amendedBy_perm same _
  · rw [stillNothing]
    exact strict.tail
  · rw [stillNothing, sameCount]
    intro someLeft other member
    exact earlier someLeft other (List.mem_cons_of_mem record member)
  · rw [stillNothing]
    intro _
    exact (List.nodup_cons.mp (distinctIds (by simp))).2
  · rw [stillNothing, ← nothingDone]
    exact holds
  · exact Or.inl stillNothing

/-- A record that holds its policy is left as it is. -/
theorem unchanged
    (standing : Standing now new current execution (record :: rest) (policy :: policies))
    (enough : rest.length ≤ policies.length)
    (agrees : record.policy.agrees policy = true) :
    Standing now new current (execution.note (some record) none) rest policies := by
  obtain ⟨same, strict, earlier, distinctIds, ⟨done, newEq, holds⟩, -⟩ := standing
  have regroup :
      execution.records ++ record :: rest =
        (execution.note (some record) none).records ++ rest := by
    simp [Execution.note]
  have sameCount : (execution.note (some record) none).created = execution.created :=
    execution.created_note _ _
  rw [regroup] at same strict earlier distinctIds
  refine ⟨same, strict, ?_, fun _ => distinctIds (by simp), ⟨done ++ [policy], ?_, ?_⟩,
    Or.inr enough⟩
  · rw [sameCount]
    exact fun _ => earlier (by simp)
  · simp [newEq]
  · exact List.rel_append holds (.cons agrees .nil)

/-- A record is overwritten with its policy. -/
theorem update
    (standing : Standing now new current execution (record :: rest) (policy :: policies))
    (enough : rest.length ≤ policies.length)
    (externalId : String)
    (nanFree : policy.IsNaNFree) :
    Standing now new (amendedBy current (.updated (record.renewed externalId policy now)))
      (execution.note (some (record.renewed externalId policy now))
        (some (.updated (record.renewed externalId policy now)))) rest policies := by
  obtain ⟨same, strict, earlier, distinctIds, ⟨done, newEq, holds⟩, -⟩ := standing
  let renewed := record.renewed externalId policy now
  have regroup :
      (execution.note (some renewed) (some (.updated renewed))).records ++ rest =
        execution.records ++ renewed :: rest := by
    simp [Execution.note]
  have sameCount :
      (execution.note (some renewed) (some (.updated renewed))).created = execution.created :=
    execution.created_note _ _
  have sameIds :
      (execution.records ++ renewed :: rest).map (·.id) =
        (execution.records ++ record :: rest).map (·.id) := by
    simp [renewed, PolicyRecord.renewed]
  constructor
  · have overwritten :
        amendedBy (execution.records ++ record :: rest) (.updated renewed) =
          execution.records ++ renewed :: rest :=
      amendedBy_updated rfl (distinctIds (by simp))
    rw [regroup, ← overwritten]
    exact amendedBy_perm same _
  · -- The order looks at the time of creation and the identifier, which stay.
    obtain ⟨front, behind, across⟩ := List.pairwise_append.mp strict
    obtain ⟨first, others⟩ := List.pairwise_cons.mp behind
    rw [regroup]
    refine List.pairwise_append.mpr ⟨front, List.pairwise_cons.mpr ⟨first, others⟩, ?_⟩
    intro before inFront after member
    rcases List.mem_cons.mp member with rfl | inRest
    · exact across before inFront record (by simp)
    · exact across before inFront after (by simp [inRest])
  · rw [regroup, sameCount]
    intro _ other member
    rcases List.mem_append.mp member with inFront | inBehind
    · exact earlier (by simp) other (by simp [inFront])
    · rcases List.mem_cons.mp inBehind with rfl | inRest
      · exact earlier (by simp) record (by simp)
      · exact earlier (by simp) other (by simp [inRest])
  · rw [regroup, sameIds]
    exact fun _ => distinctIds (by simp)
  · refine ⟨done ++ [policy], by simp [newEq], ?_⟩
    exact List.rel_append holds (.cons nanFree.agrees_self .nil)
  · exact Or.inr enough

/-- A missing record is created. -/
theorem create
    (standing : Standing now new current execution [] (policy :: policies))
    (id intentId externalId : String)
    (nanFree : policy.IsNaNFree) :
    Standing now new
      (amendedBy current
        (.created (newRecord id intentId externalId policy now execution.created)))
      (execution.note (some (newRecord id intentId externalId policy now execution.created))
        (some (.created (newRecord id intentId externalId policy now execution.created))))
      [] policies := by
  obtain ⟨same, strict, earlier, -, ⟨done, newEq, holds⟩, -⟩ := standing
  let made := newRecord id intentId externalId policy now execution.created
  rw [List.append_nil] at same strict earlier
  have regroup :
      (execution.note (some made) (some (.created made))).records = execution.records ++ [made] := by
    simp [Execution.note]
  have oneMore :
      (execution.note (some made) (some (.created made))).created = execution.created + 1 :=
    execution.created_note _ _
  have next : (now.addMicroseconds execution.created).lt
      (now.addMicroseconds (execution.created + 1)) = true :=
    now.addMicroseconds_lt (Nat.lt_succ_self _)
  constructor
  · rw [regroup, List.append_nil]
    exact same.append_right [made]
  · rw [regroup, List.append_nil]
    refine List.pairwise_append.mpr ⟨strict, List.pairwise_singleton _ _, ?_⟩
    intro before inRecords after isMade
    obtain rfl := List.mem_singleton.mp isMade
    -- Every record was created before the microsecond that the next one is given.
    exact PolicyRecord.precedes_of_lt (earlier (by simp) before inRecords)
  · rw [regroup, oneMore, List.append_nil]
    intro _ other member
    rcases List.mem_append.mp member with inRecords | isMade
    · exact Instant.lt_trans (earlier (by simp) other inRecords) next
    · obtain rfl := List.mem_singleton.mp isMade
      exact next
  · intro impossible
    exact (impossible rfl).elim
  · refine ⟨done ++ [policy], by simp [newEq], ?_⟩
    rw [regroup]
    exact List.rel_append holds (.cons nanFree.agrees_self .nil)
  · exact Or.inr (Nat.zero_le _)

/-- A step that goes through leads to where its plan goes on. -/
theorem step
    {step : PlanStep}
    {intentId : String}
    {leftRecord : Option PolicyRecord}
    {change : Option AppliedStep}
    {pendingBehind : List PolicyRecord}
    {leftBehind : List Policy}
    (standing : Standing now new current execution pending left)
    (nanFree : ∀ policy ∈ new, policy.IsNaNFree)
    (opens : Opens pending left step pendingBehind leftBehind)
    (yields : step.Yields intentId now execution.created leftRecord change) :
    Standing now new (amended current change.toList) (execution.note leftRecord change)
      pendingBehind leftBehind := by
  have leftNaNFree : ∀ policy ∈ left, policy.IsNaNFree := by
    obtain ⟨done, rfl, -⟩ := standing.holds
    exact fun policy member => nanFree policy (List.mem_append_right done member)
  cases opens with
  | delete surplus =>
      cases yields with
      | deleted => exact standing.delete surplus
  | @keep record rest policy policies enough =>
      have policyNaNFree := leftNaNFree policy (by simp)
      rw [PlanStep.keep] at yields
      split at yields
      · next agrees =>
          cases yields with
          | unchanged => exact standing.unchanged enough agrees
      · cases yields with
        | updated _ _ externalId => exact standing.update enough externalId policyNaNFree
  | @create policy policies =>
      have policyNaNFree := leftNaNFree policy (by simp)
      cases yields with
      | created _ id externalId => exact standing.create id intentId externalId policyNaNFree

end Standing

/-- Carrying out the front of a plan leads to where the rest of it is the plan. -/
theorem Carried.standing
    {intentId : String}
    {now : Instant}
    {new left : List Policy}
    {current pending : List PolicyRecord}
    {done rest : List PlanStep}
    {execution reached : Execution}
    (carried : Carried intentId now done execution reached)
    (nanFree : ∀ policy ∈ new, policy.IsNaNFree)
    (standing : Standing now new current execution pending left)
    (plan : alignedPlan pending left = done ++ rest) :
    ∃ changes pendingBehind leftBehind, reached.applied = execution.applied ++ changes ∧
      Standing now new (amended current changes) reached pendingBehind leftBehind ∧
      rest = alignedPlan pendingBehind leftBehind := by
  -- `Standing` is what every step keeps; the changes gather at the end of the applied ones.
  induction carried generalizing current pending left with
  | nil execution => exact ⟨[], pending, left, (List.append_nil _).symm, standing, plan.symm⟩
  | @cons step behind execution final leftRecord change yields carriedBehind inductionHypothesis =>
      obtain ⟨pendingBehind, leftBehind, opens, planBehind⟩ := opens_of_alignedPlan plan
      have standingBehind := standing.step nanFree opens yields
      obtain ⟨changes, pendingLast, leftLast, appliedEq, standingLast, planLast⟩ :=
        inductionHypothesis standingBehind planBehind.symm
      refine ⟨change.toList ++ changes, pendingLast, leftLast, ?_, ?_, planLast⟩
      · rw [appliedEq, Execution.note, List.append_assoc]
      · rw [amended, List.foldl_append]
        exact standingLast

/-- The plan for the records as they have become leaves alone what is done, and goes on. -/
theorem Standing.plan_eq
    {now : Instant}
    {new left : List Policy}
    {current pending : List PolicyRecord}
    {execution : Execution}
    (standing : Standing now new current execution pending left) :
    planReconciliation current new =
      execution.records.map .unchanged ++ alignedPlan pending left := by
  obtain ⟨done, newEq, holds⟩ := standing.holds
  rw [planReconciliation_eq, oldestFirst_eq_of_perm standing.strict standing.same, newEq]
  rcases standing.phase with nothingDone | enough
  · rw [nothingDone] at holds ⊢
    cases holds
    rfl
  · exact alignedPlan_append holds enough

/-- A plan starts with all records pending, and all policies left. -/
theorem Standing.start
    {now : Instant}
    {old : List PolicyRecord}
    {new : List Policy}
    (distinctIds : (old.map (·.id)).Nodup)
    (earlier : new ≠ [] → ∀ record ∈ old, record.createdAt.lt now = true) :
    Standing now new old {} (oldestFirst old) new where
  same := (oldestFirst_perm old).symm
  strict := oldestFirst_strict distinctIds
  earlier := by
    intro someNew record member
    have before := earlier someNew record ((oldestFirst_perm old).mem_iff.mp member)
    exact Instant.lt_of_lt_of_not_lt before (now.addMicroseconds_not_lt 0)
  distinctIds := fun _ => ((oldestFirst_perm old).map _).nodup_iff.mpr distinctIds
  holds := ⟨[], rfl, .nil⟩
  phase := Or.inl rfl

/-- The record is under the policy: it holds this very policy, or one with the same values. -/
def PolicyRecord.IsUnder (record : PolicyRecord) (policy : Policy) : Prop :=
  record.policy = policy ∨ record.policy.agrees policy = true

/-- A plan that is carried out to its end leaves one record under each policy, in their order. -/
theorem Carried.isUnder
    {intentId : String}
    {now : Instant}
    {done left : List Policy}
    {pending : List PolicyRecord}
    {steps : List PlanStep}
    {execution final : Execution}
    (carried : Carried intentId now steps execution final)
    (plan : alignedPlan pending left = steps)
    (under : List.Forall₂ PolicyRecord.IsUnder execution.records done) :
    List.Forall₂ PolicyRecord.IsUnder final.records (done ++ left) := by
  -- A deleted record is under nothing; every other step leaves one more record at the end.
  induction carried generalizing pending done left with
  | nil execution =>
      obtain ⟨rfl, rfl⟩ := nil_of_alignedPlan plan
      rwa [List.append_nil]
  | @cons step behind execution final leftRecord change yields carriedBehind inductionHypothesis =>
      obtain ⟨pendingBehind, leftBehind, opens, planBehind⟩ := opens_of_alignedPlan plan
      cases opens with
      | delete surplus =>
          cases yields with
          | deleted =>
              refine inductionHypothesis planBehind.symm ?_
              rw [Execution.note, Option.toList_none, List.append_nil]
              exact under
      | @keep record rest policy policies enough =>
          have underHere : ∃ kept, leftRecord = some kept ∧ kept.IsUnder policy := by
            rw [PlanStep.keep] at yields
            split at yields
            · next agrees =>
                cases yields with
                | unchanged => exact ⟨_, rfl, Or.inr agrees⟩
            · cases yields with
              | updated => exact ⟨_, rfl, Or.inl rfl⟩
          obtain ⟨kept, rfl, isUnder⟩ := underHere
          have underBehind :=
            inductionHypothesis planBehind.symm (List.rel_append under (.cons isUnder .nil))
          rwa [List.append_assoc] at underBehind
      | @create policy policies =>
          cases yields with
          | created =>
              have underBehind :=
                inductionHypothesis planBehind.symm (List.rel_append under (.cons (Or.inl rfl) .nil))
              rwa [List.append_assoc] at underBehind

/-- Records that are under policies without a NaN hold them. -/
theorem hold_of_isUnder
    {records : List PolicyRecord}
    {policies : List Policy}
    (under : List.Forall₂ PolicyRecord.IsUnder records policies)
    (nanFree : ∀ policy ∈ policies, policy.IsNaNFree) :
    Hold records policies := by
  induction under with
  | nil => exact .nil
  | cons isUnder _ inductionHypothesis =>
      obtain ⟨nanFreeHere, nanFreeBehind⟩ := List.forall_mem_cons.mp nanFree
      refine .cons ?_ (inductionHypothesis nanFreeBehind)
      rcases isUnder with rfl | agrees
      · exact nanFreeHere.agrees_self
      · exact agrees

/-- A plan that is carried out to its end leaves records that hold the policies. -/
theorem Carried.hold
    {intentId : String}
    {now : Instant}
    {left : List Policy}
    {pending : List PolicyRecord}
    {steps : List PlanStep}
    {final : Execution}
    (carried : Carried intentId now steps {} final)
    (nanFree : ∀ policy ∈ left, policy.IsNaNFree)
    (plan : alignedPlan pending left = steps) :
    Hold final.records left :=
  hold_of_isUnder (carried.isUnder plan .nil) nanFree

/-- What has been left is left when the rest of a plan is carried out. -/
theorem Carried.mem_records
    {intentId : String}
    {now : Instant}
    {steps : List PlanStep}
    {execution final : Execution}
    {record : PolicyRecord}
    (carried : Carried intentId now steps execution final)
    (isLeft : record ∈ execution.records) :
    record ∈ final.records := by
  induction carried with
  | nil => exact isLeft
  | cons _ _ inductionHypothesis => exact inductionHypothesis (List.mem_append_left _ isLeft)

/-- Only policies without a NaN lead to records without one. -/
theorem Carried.isNaNFree_of_records
    {intentId : String}
    {now : Instant}
    {left : List Policy}
    {pending : List PolicyRecord}
    {steps : List PlanStep}
    {execution final : Execution}
    (carried : Carried intentId now steps execution final)
    (plan : alignedPlan pending left = steps)
    (nanFree : ∀ record ∈ final.records, record.policy.IsNaNFree) :
    ∀ policy ∈ left, policy.IsNaNFree := by
  induction carried generalizing pending left with
  | nil execution =>
      obtain ⟨rfl, rfl⟩ := nil_of_alignedPlan plan
      simp
  | @cons step behind execution final leftRecord change yields carriedBehind inductionHypothesis =>
      have leftNaNFree {record : PolicyRecord} (isLeft : leftRecord = some record) :
          record.policy.IsNaNFree := by
        refine nanFree record (carriedBehind.mem_records ?_)
        rw [isLeft]
        exact List.mem_append_right _ (List.mem_singleton.mpr rfl)
      obtain ⟨pendingBehind, leftBehind, opens, planBehind⟩ := opens_of_alignedPlan plan
      have behindNaNFree := inductionHypothesis planBehind.symm nanFree
      cases opens with
      | delete => exact behindNaNFree
      | @keep record rest policy policies enough =>
          refine List.forall_mem_cons.mpr ⟨?_, behindNaNFree⟩
          rw [PlanStep.keep] at yields
          split at yields
          · next agrees => exact Policy.isNaNFree_of_agrees agrees
          · cases yields with
            | updated => exact leftNaNFree rfl
      | @create policy policies =>
          refine List.forall_mem_cons.mpr ⟨?_, behindNaNFree⟩
          cases yields with
          | created => exact leftNaNFree rfl

end IntentPolicy
