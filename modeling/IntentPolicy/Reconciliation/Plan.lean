import IntentPolicy.Policy.Record

namespace IntentPolicy

/-!
# Reconciliation plans

How the records of an intent become the policies of its new translation.  Records and
policies are paired by position, oldest record first: surplus records go, paired ones
are overwritten unless they already hold the policy, and missing ones are created.
-/

/-- One change to come, in the order of execution. -/
inductive PlanStep where
  | delete (record : PolicyRecord)
  | update (record : PolicyRecord) (policy : Policy)
  | unchanged (record : PolicyRecord)
  | create (policy : Policy)
  deriving DecidableEq

/-- Created earlier, or at the same time with an identifier that is not greater. -/
def PolicyRecord.isOlder (left right : PolicyRecord) : Bool :=
  left.createdAt.lt right.createdAt ||
    (!right.createdAt.lt left.createdAt && decide (left.id ≤ right.id))

/-- The records in the order of their creation. -/
def oldestFirst (records : List PolicyRecord) : List PolicyRecord :=
  records.mergeSort PolicyRecord.isOlder

/-- What becomes of a record that stays: nothing if it already holds the policy. -/
def PlanStep.keep (record : PolicyRecord) (policy : Policy) : PlanStep :=
  if record.policy.agrees policy then .unchanged record else .update record policy

/-- The step deletes a record. -/
def PlanStep.isDelete : PlanStep → Bool
  | .delete _ => true
  | _ => false

/-- The plan that turns the old records into the new policies. -/
def planReconciliation (old : List PolicyRecord) (new : List Policy) : List PlanStep :=
  let ordered := oldestFirst old
  let surplus := ordered.length - new.length
  let kept := ordered.drop surplus
  (ordered.take surplus).map .delete ++ List.zipWith .keep kept new
    ++ (new.drop kept.length).map .create

/-- The plan that withdraws all records, oldest first. -/
def planRetirement (records : List PolicyRecord) : List PlanStep :=
  (oldestFirst records).map .delete

end IntentPolicy
