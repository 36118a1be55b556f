import IntentPolicy.Intent.Vocabulary

namespace IntentPolicy

/-!
# Sets of words

A set of values of one vocabulary, kept as the list of its members in the order of the
vocabulary.  Two sets with the same members are therefore the same set.
-/

/-- A set of words, listed in the order of their vocabulary. -/
structure WordSet (Value : Type) [DecidableEq Value] [Vocabulary Value] where
  toList : List Value
  ordered : toList = (Vocabulary.all : List Value).filter (· ∈ toList)

namespace WordSet

variable {Value : Type} [DecidableEq Value] [Vocabulary Value]

instance : Membership Value (WordSet Value) where
  mem words value := value ∈ words.toList

instance (value : Value) (words : WordSet Value) : Decidable (value ∈ words) :=
  inferInstanceAs (Decidable (value ∈ words.toList))

/-- The set of the values that pass a test. -/
def ofTest (test : Value → Bool) : WordSet Value where
  toList := Vocabulary.all.filter test
  ordered := by
    apply List.filter_congr
    intro value _
    simp [List.mem_filter, Vocabulary.mem_all]

@[simp]
theorem mem_ofTest {test : Value → Bool} {value : Value} :
    value ∈ ofTest test ↔ test value = true := by
  change value ∈ Vocabulary.all.filter test ↔ _
  simp [List.mem_filter, Vocabulary.mem_all]

theorem ext {left right : WordSet Value}
    (sameMembers : ∀ value, value ∈ left ↔ value ∈ right) : left = right := by
  cases left with
  | mk leftList leftOrdered =>
      cases right with
      | mk rightList rightOrdered =>
          have sameLists : leftList = rightList := by
            rw [leftOrdered, rightOrdered]
            apply List.filter_congr
            intro value _
            have same : value ∈ leftList ↔ value ∈ rightList := sameMembers value
            simp [same]
          subst sameLists
          rfl

instance : DecidableEq (WordSet Value) := fun left right =>
  if sameLists : left.toList = right.toList then
    .isTrue (ext fun value => by
      change value ∈ left.toList ↔ value ∈ right.toList
      rw [sameLists])
  else .isFalse fun same => sameLists (same ▸ rfl)

/-- The set without members. -/
def empty : WordSet Value := ofTest fun _ => false

instance : Inhabited (WordSet Value) := ⟨empty⟩

/-- The set of the members of a list. -/
def ofList (values : List Value) : WordSet Value := ofTest fun value => decide (value ∈ values)

/-- The set with one more member. -/
def insert (words : WordSet Value) (added : Value) : WordSet Value :=
  ofTest fun value => decide (value = added ∨ value ∈ words)

/-- The values outside the set. -/
def complement (words : WordSet Value) : WordSet Value :=
  ofTest fun value => !decide (value ∈ words)

/-- The set has no members. -/
def isEmpty (words : WordSet Value) : Bool := words.toList.isEmpty

@[simp]
theorem not_mem_empty {value : Value} : ¬ value ∈ (empty : WordSet Value) := by
  simp [empty]

@[simp]
theorem mem_insert {words : WordSet Value} {added value : Value} :
    value ∈ words.insert added ↔ value = added ∨ value ∈ words := by
  simp [insert]

@[simp]
theorem mem_complement {words : WordSet Value} {value : Value} :
    value ∈ words.complement ↔ ¬ value ∈ words := by
  simp [complement]

@[simp]
theorem mem_ofList {values : List Value} {value : Value} :
    value ∈ (ofList values : WordSet Value) ↔ value ∈ values := by
  simp [ofList]

/-- The set of the members of a set is the set. -/
@[simp]
theorem ofList_toList (words : WordSet Value) : ofList words.toList = words :=
  ext fun _ => mem_ofList

/-- The words of the members. -/
def words (members : WordSet Value) : List String := members.toList.map wordOf

end WordSet

end IntentPolicy
