import IntentPolicy.Intent.Basic
import Mathlib.Logic.Basic

namespace IntentPolicy

/-!
# Intents that agree

Two intents agree exactly if they differ only in the order and repetition of users and in the
scale of the threshold.
-/

/-- The two lists name the same things. -/
def NameSame {Item : Type} (left right : List Item) : Prop :=
  ∀ item, item ∈ left ↔ item ∈ right

instance {Item : Type} [DecidableEq Item] (left right : List Item) :
    Decidable (NameSame left right) :=
  decidable_of_iff ((∀ item ∈ left, item ∈ right) ∧ ∀ item ∈ right, item ∈ left)
    ⟨fun within item => ⟨within.1 item, within.2 item⟩,
      fun same => ⟨fun item => (same item).mp, fun item => (same item).mpr⟩⟩

theorem NameSame.symm
    {Item : Type}
    {left right : List Item}
    (same : NameSame left right) :
    NameSame right left :=
  fun item => (same item).symm

theorem WordSet.ofList_of_nameSame
    {Value : Type}
    [DecidableEq Value]
    [Vocabulary Value]
    {left right : List Value}
    (same : NameSame left right) :
    (ofList left : WordSet Value) = ofList right := by
  apply ext
  intro value
  rw [mem_ofList, mem_ofList]
  exact same value

namespace Intent

variable {left right intent : Intent}

/-- An intent agrees with those that name its users and a threshold of the same value. -/
theorem agrees_iff :
    left.agrees right = true ↔
      NameSame left.users right.users ∧
        sameThreshold left.threshold right.threshold = true ∧
        right = { left with users := right.users, threshold := right.threshold } := by
  have users :
      (left.users.all (· ∈ right.users) && right.users.all (· ∈ left.users)) = true ↔
        NameSame left.users right.users := by
    simp only [Bool.and_eq_true, List.all_eq_true, decide_eq_true_eq]
    exact ⟨fun within user => ⟨within.1 user, within.2 user⟩,
      fun same => ⟨fun user => (same user).mp, fun user => (same user).mpr⟩⟩
  cases left
  cases right
  simp only [agrees, Bool.and_eq_true, beq_iff_eq, mk.injEq, true_and, and_true] at users ⊢
  grind

/-- An intent agrees with one that names the same users in another order. -/
theorem agrees_with_users
    {users : List String}
    (same : NameSame intent.users users) :
    intent.agrees { intent with users := users } = true := by
  have sameAmount : sameThreshold intent.threshold intent.threshold = true := by
    cases intent.threshold with
    | none => rfl
    | some amount => exact beq_self_eq_true amount.units
  exact agrees_iff.mpr ⟨same, sameAmount, rfl⟩

end Intent

end IntentPolicy
