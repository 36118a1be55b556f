import IntentPolicy.Proofs.Reconciliation.Resumption

namespace IntentPolicy

/-!
# The order of reconciled records

Records that stay keep their times and their order, and those that are created follow each
other by a microsecond.  So a reconciliation leaves its records oldest first exactly if every
record that stays precedes the first one that is created.
-/

namespace PolicyRecord

variable {left middle right : PolicyRecord}

theorem Precedes.trans
    (leftPrecedes : left.Precedes middle)
    (middlePrecedes : middle.Precedes right) :
    left.Precedes right := by
  rw [Precedes, ← Bool.not_eq_true]
  intro younger
  have youngerThanMiddle := isOlder_trans right left middle younger leftPrecedes.isOlder
  rw [middlePrecedes] at youngerThanMiddle
  cases youngerThanMiddle

/-- What precedes a record does so by the time of creation and the identifier alone. -/
theorem Precedes.of_key
    {other : PolicyRecord}
    (precedes : left.Precedes right)
    (sameKey : other.key = left.key) :
    other.Precedes right := by
  have sameOlder : right.isOlder other = right.isOlder left :=
    congrArg (isOlderKey right.key) sameKey
  rw [Precedes, sameOlder]
  exact precedes

/-- Records with the keys of ordered records are ordered. -/
theorem pairwise_of_keys
    {records ordered : List PolicyRecord}
    (strict : ordered.Pairwise Precedes)
    (sameKeys : records.map key = ordered.map key) :
    records.Pairwise Precedes := by
  have strictKeys : (ordered.map key).Pairwise fun left right => isOlderKey right left = false :=
    List.pairwise_map.mpr strict
  rw [← sameKeys, List.pairwise_map] at strictKeys
  exact strictKeys

/-- Records that were created one after the other are ordered. -/
theorem pairwise_of_times
    {records : List PolicyRecord}
    {now : Instant}
    {start count : Nat}
    (times : records.map (·.createdAt) = (List.range' start count).map now.addMicroseconds) :
    records.Pairwise Precedes := by
  have increasing : ((List.range' start count).map now.addMicroseconds).Pairwise
      fun left right => left.lt right = true :=
    List.pairwise_map.mpr ((List.pairwise_lt_range' 1 Nat.one_pos).imp now.addMicroseconds_lt)
  rw [← times] at increasing
  exact (List.pairwise_map.mp increasing).imp precedes_of_lt

end PolicyRecord

/-- Records as a reconciliation leaves them: the youngest of the old ones under their keys, and
behind them those that were created, a microsecond apart from each other. -/
structure IsComposed (pending : List PolicyRecord) (policies : Nat) (now : Instant)
    (created : Nat) (kept made : List PolicyRecord) : Prop where
  keys : kept.map PolicyRecord.key =
    (pending.drop (pending.length - policies)).map PolicyRecord.key
  times : made.map (·.createdAt) =
    (List.range' created (policies - pending.length)).map now.addMicroseconds

section Steps

variable {pending kept made : List PolicyRecord} {record : PolicyRecord} {policies created : Nat}
  {now : Instant}

/-- A surplus record leaves nothing. -/
theorem IsComposed.behind_surplus
    (surplus : policies ≤ pending.length)
    (composed : IsComposed pending policies now created kept made) :
    IsComposed (record :: pending) policies now created kept made := by
  obtain ⟨keys, times⟩ := composed
  constructor
  · rw [List.length_cons, Nat.succ_sub surplus, List.drop_succ_cons]
    exact keys
  · rw [List.length_cons, Nat.sub_eq_zero_of_le (Nat.le_succ_of_le surplus)]
    rw [Nat.sub_eq_zero_of_le surplus] at times
    exact times

/-- Without a surplus a record stays in front of those behind it. -/
theorem IsComposed.cons_kept
    {left : PolicyRecord}
    (enough : pending.length ≤ policies)
    (sameKey : left.key = record.key)
    (composed : IsComposed pending policies now created kept made) :
    IsComposed (record :: pending) (policies + 1) now created (left :: kept) made := by
  obtain ⟨keys, times⟩ := composed
  rw [Nat.sub_eq_zero_of_le enough, List.drop_zero] at keys
  constructor
  · rw [List.length_cons, Nat.add_sub_add_right, Nat.sub_eq_zero_of_le enough, List.drop_zero,
      List.map_cons, List.map_cons, sameKey, keys]
  · rw [List.length_cons, Nat.add_sub_add_right]
    exact times

/-- Behind all records one is created in front of those that are created later. -/
theorem IsComposed.cons_made
    (createdAt : record.createdAt = now.addMicroseconds created)
    (composed : IsComposed [] policies now (created + 1) kept made) :
    IsComposed [] (policies + 1) now created [] (record :: made) := by
  refine ⟨List.drop_nil.symm ▸ rfl, ?_⟩
  rw [List.length_nil, Nat.sub_zero, List.range'_succ, List.map_cons, List.map_cons, createdAt]
  exact congrArg _ composed.times

/-- A record that stays is left under its key, and nothing is created for it. -/
theorem PlanStep.Yields.keeps
    {intentId : String}
    {policy : Policy}
    {leftRecord : Option PolicyRecord}
    {change : Option AppliedStep}
    (yields : PlanStep.Yields intentId now created (keep record policy) leftRecord change) :
    ∃ left, leftRecord = some left ∧ left.key = record.key ∧
      change.toList.countP AppliedStep.isCreated = 0 := by
  rw [keep] at yields
  split at yields
  · cases yields with
    | unchanged => exact ⟨_, rfl, rfl, rfl⟩
  · cases yields with
    | updated => exact ⟨_, rfl, rfl, rfl⟩

end Steps

/-- A plan that is carried out to its end leaves records that stay and records that are new. -/
theorem Carried.exists_isComposed
    {intentId : String}
    {now : Instant}
    {left : List Policy}
    {pending : List PolicyRecord}
    {steps : List PlanStep}
    {execution final : Execution}
    (carried : Carried intentId now steps execution final)
    (plan : alignedPlan pending left = steps) :
    ∃ kept made, final.records = execution.records ++ (kept ++ made) ∧
      IsComposed pending left.length now execution.created kept made := by
  -- A step that stays leaves a record in front of those behind it, so only the keys are counted.
  induction carried generalizing pending left with
  | nil execution =>
      obtain ⟨rfl, rfl⟩ := nil_of_alignedPlan plan
      exact ⟨[], [], by simp, rfl, rfl⟩
  | @cons step behind execution final leftRecord change yields carriedBehind inductionHypothesis =>
      obtain ⟨pendingBehind, leftBehind, opens, planBehind⟩ := opens_of_alignedPlan plan
      obtain ⟨kept, made, recordsEq, composed⟩ := inductionHypothesis planBehind.symm
      rw [execution.created_note] at composed
      rw [Execution.note, List.append_assoc] at recordsEq
      cases opens with
      | delete surplus =>
          cases yields with
          | deleted => exact ⟨kept, made, recordsEq, composed.behind_surplus surplus⟩
      | keep enough =>
          obtain ⟨left, rfl, sameKey, noneCreated⟩ := yields.keeps
          rw [noneCreated] at composed
          exact ⟨left :: kept, made, recordsEq, composed.cons_kept enough sameKey⟩
      | create =>
          cases yields with
          | created _ id externalId =>
              obtain rfl : kept = [] := by simpa using composed.keys
              exact ⟨[], _, recordsEq, composed.cons_made rfl⟩

section Composition

variable {old kept made : List PolicyRecord} {policies : Nat} {now : Instant}

/-- Without more policies than records none is created. -/
theorem IsComposed.made_eq_nil
    (composed : IsComposed old policies now 0 kept made)
    (enough : policies ≤ old.length) :
    made = [] := by
  have times := composed.times
  rw [Nat.sub_eq_zero_of_le enough] at times
  exact List.map_eq_nil_iff.mp times

/-- With more policies than records all records stay. -/
theorem IsComposed.all_kept
    (composed : IsComposed old policies now 0 kept made)
    (missing : old.length < policies) :
    kept.map PolicyRecord.key = old.map PolicyRecord.key := by
  have keys := composed.keys
  rwa [Nat.sub_eq_zero_of_le (Nat.le_of_lt missing), List.drop_zero] at keys

theorem IsComposed.length_kept_le
    (composed : IsComposed old policies now 0 kept made) :
    kept.length ≤ old.length := by
  have sameLength := congrArg List.length composed.keys
  rw [List.length_map, List.length_map, List.length_drop] at sameLength
  omega

/-- The first record that is created stands behind as many records as there were. -/
theorem IsComposed.first_made
    (composed : IsComposed old policies now 0 kept made) :
    (kept ++ made)[old.length]? = made.head? := by
  by_cases enough : policies ≤ old.length
  · rw [composed.made_eq_nil enough, List.append_nil]
    exact List.getElem?_eq_none composed.length_kept_le
  · have sameLength := congrArg List.length (composed.all_kept (Nat.lt_of_not_le enough))
    rw [List.length_map, List.length_map] at sameLength
    rw [List.getElem?_append_right (Nat.le_of_eq sameLength), sameLength, Nat.sub_self,
      List.head?_eq_getElem?]

/-- Records that stay and records that were created are ordered if and only if all that stay
precede the first one that was created. -/
theorem IsComposed.pairwise_iff
    (composed : IsComposed old policies now 0 kept made)
    (strict : old.Pairwise PolicyRecord.Precedes) :
    (kept ++ made).Pairwise PolicyRecord.Precedes ↔
      ∀ first ∈ made.head?, ∀ record ∈ old, record.Precedes first := by
  have keptStrict : kept.Pairwise PolicyRecord.Precedes :=
    PolicyRecord.pairwise_of_keys (strict.sublist (List.drop_sublist _ _)) composed.keys
  have madeStrict : made.Pairwise PolicyRecord.Precedes :=
    PolicyRecord.pairwise_of_times composed.times
  rw [List.pairwise_append]
  by_cases enough : policies ≤ old.length
  · simp [composed.made_eq_nil enough, keptStrict]
  · have sameKeys := composed.all_kept (Nat.lt_of_not_le enough)
    constructor
    · rintro ⟨-, -, across⟩ first isFirst record member
      have keyMember : record.key ∈ kept.map PolicyRecord.key := by
        rw [sameKeys]
        exact List.mem_map_of_mem member
      obtain ⟨other, otherKept, sameKey⟩ := List.mem_map.mp keyMember
      exact (across other otherKept first (List.mem_of_mem_head? isFirst)).of_key sameKey.symm
    · intro precedeFirst
      refine ⟨keptStrict, madeStrict, ?_⟩
      intro record recordKept later laterMade
      obtain ⟨first, others, rfl⟩ := List.exists_cons_of_ne_nil (List.ne_nil_of_mem laterMade)
      have keyMember : record.key ∈ old.map PolicyRecord.key := by
        rw [← sameKeys]
        exact List.mem_map_of_mem recordKept
      obtain ⟨other, otherMember, sameKey⟩ := List.mem_map.mp keyMember
      have precedes : record.Precedes first :=
        (precedeFirst first rfl other otherMember).of_key sameKey.symm
      rcases List.mem_cons.mp laterMade with rfl | behind
      · exact precedes
      · exact precedes.trans (List.rel_of_pairwise_cons madeStrict behind)

/-- The first record that is created is given the time of the reconciliation. -/
theorem IsComposed.createdAt_first
    {first : PolicyRecord}
    (composed : IsComposed old policies now 0 kept made)
    (isFirst : first ∈ made.head?) :
    first.createdAt = now.addMicroseconds 0 := by
  obtain ⟨others, rfl⟩ := List.head?_eq_some_iff.mp isFirst
  have times := composed.times
  cases count : policies - old.length with
  | zero =>
      rw [count] at times
      cases times
  | succ count' =>
      rw [count, List.range'_succ] at times
      exact (List.cons.inj times).1

end Composition

/--
A reconciliation that finishes leaves its records oldest first exactly if every record that it
was given precedes the first one that it has created, as it does where the reconciliation is
later than all of them.  The records are then what ordering them gives, and in any case there
is one under each policy, in their order.
-/
theorem reconciled_oldest_first_iff
    {State : Type}
    (reconciler : Reconciler State)
    (intentId : String)
    (old : List PolicyRecord)
    (new : List Policy)
    (now : Instant)
    (state : State)
    (distinctIds : (old.map (·.id)).Nodup)
    (finished : (reconciler.reconcile intentId old new now state).1.interruption = none) :
    let records := (reconciler.reconcile intentId old new now state).1.records
    (records.Pairwise PolicyRecord.Precedes ↔
      ∀ first ∈ records[old.length]?, ∀ record ∈ old, record.Precedes first) ∧
    (∀ first ∈ records[old.length]?, first.createdAt = now.addMicroseconds 0) ∧
    ((∀ record ∈ old, record.createdAt.lt now = true) → records.Pairwise PolicyRecord.Precedes) ∧
    (records.Pairwise PolicyRecord.Precedes → oldestFirst records = records) ∧
    List.Forall₂ PolicyRecord.IsUnder records new := by
  intro records
  have carried := (reconciler.planRun intentId now (planReconciliation old new) {}
    state).carried_of_finished finished
  have plan := (planReconciliation_eq old new).symm
  obtain ⟨kept, made, recordsEq, composed⟩ := carried.exists_isComposed plan
  rw [List.nil_append] at recordsEq
  have sameRecords : records = kept ++ made := recordsEq
  have sameLength : (oldestFirst old).length = old.length := (oldestFirst_perm old).length_eq
  have firstMade : records[old.length]? = made.head? := by
    rw [sameRecords, ← sameLength, composed.first_made]
  have orderedIff : records.Pairwise PolicyRecord.Precedes ↔
      ∀ first ∈ records[old.length]?, ∀ record ∈ old, record.Precedes first := by
    rw [firstMade, sameRecords, composed.pairwise_iff (oldestFirst_strict distinctIds)]
    simp only [(oldestFirst_perm old).mem_iff]
  have createdNow : ∀ first ∈ records[old.length]?, first.createdAt = now.addMicroseconds 0 := by
    rw [firstMade]
    exact fun first isFirst => composed.createdAt_first isFirst
  refine ⟨orderedIff, createdNow, ?_, ?_, carried.isUnder plan .nil⟩
  · intro earlier
    rw [orderedIff]
    intro first isFirst record member
    apply PolicyRecord.precedes_of_lt
    rw [createdNow first isFirst]
    exact Instant.lt_of_lt_of_not_lt (earlier record member) (now.addMicroseconds_not_lt 0)
  · exact fun ordered => oldestFirst_eq_of_perm ordered (List.Perm.refl records)

/-- Records in strict order are planned for as they stand. -/
theorem Reconciler.reconcile_of_strict
    {State : Type}
    {old : List PolicyRecord}
    (reconciler : Reconciler State)
    (intentId : String)
    (strict : old.Pairwise PolicyRecord.Precedes)
    (new : List Policy)
    (now : Instant)
    (state : State) :
    reconciler.reconcile intentId old new now state =
      reconciler.carryOut intentId now (alignedPlan old new) {} state := by
  rw [reconcile, planReconciliation_eq, oldestFirst_eq_of_perm strict (List.Perm.refl old)]

/-- A record that was created at the time of the reconciliation, under a lesser identifier. -/
theorem reconciled_oldest_first_at_same_time :
    let old : List PolicyRecord := [⟨"a", "intent", "pdp-a", .baselineFor "ann", ⟨3, 0⟩, ⟨3, 0⟩⟩]
    let new : List Policy := [.baselineFor "cat", .baselineFor "dan"]
    let outcome := (Reconciler.failingAt none).reconcile "intent" old new ⟨3, 0⟩ 0
    (old.map (·.id)).Nodup ∧ outcome.1.interruption = none ∧
      outcome.1.records.Pairwise PolicyRecord.Precedes ∧
      oldestFirst outcome.1.records = outcome.1.records := by
  intro old new outcome
  have distinctIds : (old.map (·.id)).Nodup := by decide
  have outcomeEq : outcome = (Reconciler.failingAt none).carryOut "intent" ⟨3, 0⟩
      (alignedPlan old new) {} 0 :=
    Reconciler.reconcile_of_strict _ _ (by decide +kernel) _ _ _
  have finished : outcome.1.interruption = none := by
    rw [outcomeEq]
    decide +kernel
  obtain ⟨orderedIff, -, -, stays, -⟩ := reconciled_oldest_first_iff (Reconciler.failingAt none)
    "intent" old new ⟨3, 0⟩ 0 distinctIds finished
  have precedesFirst : outcome.1.records.Pairwise PolicyRecord.Precedes := by
    refine orderedIff.mpr ?_
    change ∀ first ∈ outcome.1.records[1]?, _
    rw [outcomeEq]
    decide +kernel
  exact ⟨distinctIds, finished, precedesFirst, stays precedesFirst⟩

/-- Behind three records that one reconciliation has created, a microsecond apart, the next one
comes before the last of them has been reached. -/
theorem reconciled_out_of_order_behind_early_update :
    let old : List PolicyRecord :=
      [⟨"a", "intent", "pdp-a", .baselineFor "ann", ⟨1, 0⟩, ⟨1, 0⟩⟩,
        ⟨"b", "intent", "pdp-b", .baselineFor "bob", ⟨1, 1000⟩, ⟨1, 1000⟩⟩,
        ⟨"c", "intent", "pdp-c", .baselineFor "cat", ⟨1, 2000⟩, ⟨1, 2000⟩⟩]
    let new : List Policy :=
      [.baselineFor "ann", .baselineFor "bob", .baselineFor "cat", .baselineFor "dan"]
    let outcome := (Reconciler.failingAt none).reconcile "intent" old new ⟨1, 1500⟩ 0
    (old.map (·.id)).Nodup ∧ outcome.1.interruption = none ∧
      ¬ outcome.1.records.Pairwise PolicyRecord.Precedes := by
  intro old new outcome
  have outcomeEq : outcome = (Reconciler.failingAt none).carryOut "intent" ⟨1, 1500⟩
      (alignedPlan old new) {} 0 :=
    Reconciler.reconcile_of_strict _ _ (by decide +kernel) _ _ _
  rw [outcomeEq]
  decide +kernel

end IntentPolicy
