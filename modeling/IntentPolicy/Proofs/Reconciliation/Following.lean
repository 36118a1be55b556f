import IntentPolicy.Proofs.Reconciliation.Action
import Mathlib.Data.List.Forall2

namespace IntentPolicy

/-!
# Actions that follow each other

Two actions on states of their own follow each other if they come to like values or to one
error, and leave states that belong together.  The second may be allowed to fault where the
first goes on; then it still leaves a state that belongs to one of the first.
-/

variable {Left Right Error Value Other : Type}

/-- How the second of two actions has ended in comparison with the first. -/
inductive Follows (faults : Prop) (related : Left → Right → Prop)
    (alike : Value → Other → Left → Prop) :
    Except Error Value × Left → Except Error Other × Right → Prop
  | answered {value : Value} {other : Other} {left : Left} {right : Right}
      (isAlike : alike value other left)
      (isRelated : related left right) :
      Follows faults related alike (.ok value, left) (.ok other, right)
  | failed {error : Error} {left : Left} {right : Right}
      (isRelated : related left right) :
      Follows faults related alike (.error error, left) (.error error, right)
  | faulted {outcome : Except Error Value × Left} {error : Error} {left : Left} {right : Right}
      (mayFault : faults)
      (isRelated : related left right) :
      Follows faults related alike outcome (.error error, right)

namespace Follows

variable {faults : Prop} {related : Left → Right → Prop}

section Sequence

variable {Behind OtherBehind : Type} {alike : Value → Other → Left → Prop}
  {alikeBehind : Behind → OtherBehind → Left → Prop} {leftAction : Action Left Error Value}
  {rightAction : Action Right Error Other} {left : Left} {right : Right}

/-- What follows two actions is compared in the states that they have reached. -/
theorem bind
    {next : Value → Action Left Error Behind}
    {otherNext : Other → Action Right Error OtherBehind}
    (first : Follows faults related alike (leftAction.run left) (rightAction.run right))
    (behind : ∀ value other leftReached rightReached, alike value other leftReached →
      related leftReached rightReached →
      Follows faults related alikeBehind ((next value).run leftReached)
        ((otherNext other).run rightReached)) :
    Follows faults related alikeBehind ((leftAction >>= next).run left)
      ((rightAction >>= otherNext).run right) := by
  rw [Action.run_bind, Action.run_bind]
  generalize leftAction.run left = leftOutcome at first
  generalize rightAction.run right = rightOutcome at first
  cases first with
  | answered isAlike isRelated => exact behind _ _ _ _ isAlike isRelated
  | failed isRelated => exact .failed isRelated
  | faulted mayFault isRelated => exact .faulted mayFault isRelated

theorem pure
    {value : Value}
    {other : Other}
    (isAlike : alike value other left)
    (isRelated : related left right) :
    Follows faults related alike ((Pure.pure value : Action Left Error Value).run left)
      ((Pure.pure other : Action Right Error Other).run right) :=
  .answered isAlike isRelated

theorem adapt
    {OuterError : Type}
    (outer : Error → OuterError)
    (inner : Follows faults related alike (leftAction.run left) (rightAction.run right)) :
    Follows faults related alike
      ((ExceptT.adapt outer leftAction : Action Left OuterError Value).run left)
      ((ExceptT.adapt outer rightAction : Action Right OuterError Other).run right) := by
  rw [Action.run_adapt, Action.run_adapt]
  generalize leftAction.run left = leftOutcome at inner
  generalize rightAction.run right = rightOutcome at inner
  cases inner with
  | answered isAlike isRelated => exact .answered isAlike isRelated
  | failed isRelated => exact .failed isRelated
  | faulted mayFault isRelated => exact .faulted mayFault isRelated

/-- Actions on one entry after the other are compared entry by entry. -/
theorem mapM
    {Entry : Type}
    {alikeHere : Value → Other → Prop}
    {keeps : Left → Prop}
    {entries : List Entry}
    {action : Entry → Action Left Error Value}
    {otherAction : Entry → Action Right Error Other}
    (each : ∀ entry ∈ entries, ∀ left right, keeps left → related left right →
      Follows faults related (fun value other reached => alikeHere value other ∧ keeps reached)
        ((action entry).run left) ((otherAction entry).run right))
    (kept : keeps left)
    (isRelated : related left right) :
    Follows faults related
      (fun values others reached => List.Forall₂ alikeHere values others ∧ keeps reached)
      ((entries.mapM action).run left) ((entries.mapM otherAction).run right) := by
  induction entries generalizing left right with
  | nil =>
      rw [List.mapM_nil, List.mapM_nil]
      exact .pure ⟨.nil, kept⟩ isRelated
  | cons entry entries inductionHypothesis =>
      obtain ⟨here, behind⟩ := List.forall_mem_cons.mp each
      rw [List.mapM_cons, List.mapM_cons]
      refine .bind (here left right kept isRelated) ?_
      rintro value other reached otherReached ⟨isAlike, stillKept⟩ stillRelated
      refine .bind (inductionHypothesis behind stillKept stillRelated) ?_
      rintro values others last otherLast ⟨areAlike, keptLast⟩ relatedLast
      exact .pure ⟨.cons isAlike areAlike, keptLast⟩ relatedLast

theorem weaken
    {weaker : Value → Other → Left → Prop}
    {leftOutcome : Except Error Value × Left}
    {rightOutcome : Except Error Other × Right}
    (follows : Follows faults related alike leftOutcome rightOutcome)
    (weakens : ∀ value other left, alike value other left → weaker value other left) :
    Follows faults related weaker leftOutcome rightOutcome := by
  cases follows with
  | answered isAlike isRelated => exact .answered (weakens _ _ _ isAlike) isRelated
  | failed isRelated => exact .failed isRelated
  | faulted mayFault isRelated => exact .faulted mayFault isRelated

/-- An answer is what the first action has come to. -/
theorem noting
    {leftOutcome : Except Error Value × Left}
    {rightOutcome : Except Error Other × Right}
    (follows : Follows faults related alike leftOutcome rightOutcome) :
    Follows faults related
      (fun value other left => alike value other left ∧ leftOutcome = (.ok value, left))
      leftOutcome rightOutcome := by
  cases follows with
  | answered isAlike isRelated => exact .answered ⟨isAlike, rfl⟩ isRelated
  | failed isRelated => exact .failed isRelated
  | faulted mayFault isRelated => exact .faulted mayFault isRelated

/-- What the second action answers follows an answer of the first. -/
theorem of_answered
    {leftOutcome : Except Error Value × Left}
    {other : Other}
    (follows : Follows faults related alike leftOutcome (.ok other, right)) :
    ∃ value left, leftOutcome = (.ok value, left) ∧ alike value other left ∧ related left right := by
  cases follows with
  | answered isAlike isRelated => exact ⟨_, _, rfl, isAlike, isRelated⟩

/-- Whatever faults, the state that the second action leaves belongs to one of the first. -/
theorem exists_related
    {leftOutcome : Except Error Value × Left}
    {rightOutcome : Except Error Other × Right}
    (follows : Follows faults related alike leftOutcome rightOutcome) :
    ∃ left, related left rightOutcome.2 := by
  cases follows with
  | answered _ isRelated => exact ⟨_, isRelated⟩
  | failed isRelated => exact ⟨_, isRelated⟩
  | faulted _ isRelated => exact ⟨_, isRelated⟩

/-- Where nothing faults, the states that are reached belong together. -/
theorem isRelated
    {leftOutcome : Except Error Value × Left}
    {rightOutcome : Except Error Other × Right}
    (follows : Follows False related alike leftOutcome rightOutcome) :
    related leftOutcome.2 rightOutcome.2 := by
  cases follows with
  | answered _ isRelated => exact isRelated
  | failed isRelated => exact isRelated
  | faulted impossible => exact impossible.elim

end Sequence

end Follows

end IntentPolicy
