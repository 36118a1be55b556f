import IntentPolicy.Proofs.Time.InstantOrder
import IntentPolicy.Reconciliation.Plan

namespace IntentPolicy

/-!
# The order of records

Records are ordered by creation and then by identifier.  A list in strict order is the
only way to put its records in order, so it does not matter how they are stored.
-/

/-- Created earlier, or at no later time under an identifier that is not greater. -/
def isOlderKey (left right : Instant × String) : Bool :=
  left.1.lt right.1 || (!right.1.lt left.1 && decide (left.2 ≤ right.2))

section OlderKey

variable {left middle right : Instant × String}

theorem isOlderKey_iff :
    isOlderKey left right = true ↔
      left.1.lt right.1 = true ∨ right.1.lt left.1 = false ∧ left.2 ≤ right.2 := by
  simp [isOlderKey]

theorem isOlderKey_total
    (left right : Instant × String) :
    (isOlderKey left right || isOlderKey right left) = true := by
  rw [Bool.or_eq_true, isOlderKey_iff, isOlderKey_iff]
  cases before : left.1.lt right.1 with
  | true => exact Or.inl (Or.inl rfl)
  | false =>
      cases after : right.1.lt left.1 with
      | true => exact Or.inr (Or.inl rfl)
      | false =>
          rcases String.le_total left.2 right.2 with idsOrdered | idsOrdered
          · exact Or.inl (Or.inr ⟨rfl, idsOrdered⟩)
          · exact Or.inr (Or.inr ⟨rfl, idsOrdered⟩)

theorem isOlderKey_trans
    (left middle right : Instant × String)
    (leftOlder : isOlderKey left middle = true)
    (middleOlder : isOlderKey middle right = true) :
    isOlderKey left right = true := by
  rw [isOlderKey_iff] at leftOlder middleOlder ⊢
  rcases leftOlder with before | ⟨notAfter, idsOrdered⟩
  · rcases middleOlder with behind | ⟨notBehind, -⟩
    · exact Or.inl (Instant.lt_trans before behind)
    · exact Or.inl (Instant.lt_of_lt_of_not_lt before notBehind)
  · rcases middleOlder with behind | ⟨notBehind, idsBehind⟩
    · exact Or.inl (Instant.lt_of_not_lt_of_lt notAfter behind)
    · exact Or.inr ⟨Instant.not_lt_trans notBehind notAfter, String.le_trans idsOrdered idsBehind⟩

/-- Keys that are older than each other are one. -/
theorem eq_of_isOlderKey
    (leftOlder : isOlderKey left right = true)
    (rightOlder : isOlderKey right left = true) :
    left = right := by
  rw [isOlderKey_iff] at leftOlder rightOlder
  rcases leftOlder with before | ⟨notAfter, idsOrdered⟩
  · rcases rightOlder with after | ⟨notBefore, -⟩
    · rw [Instant.not_lt_of_lt before] at after
      cases after
    · rw [before] at notBefore
      cases notBefore
  · rcases rightOlder with after | ⟨notBefore, idsBehind⟩
    · rw [notAfter] at after
      cases after
    · exact Prod.ext (Instant.eq_of_not_lt notBefore notAfter)
        (String.le_antisymm idsOrdered idsBehind)

/-- Entries with distinct keys are put in strict order. -/
theorem sorted_strict
    {Entry : Type}
    {time : Entry → Instant}
    {key : Entry → String}
    {entries : List Entry}
    (distinct : (entries.map key).Nodup) :
    (entries.mergeSort fun left right =>
        isOlderKey (time left, key left) (time right, key right)).Pairwise
      fun left right => isOlderKey (time right, key right) (time left, key left) = false := by
  let older (left right : Entry) : Bool :=
    isOlderKey (time left, key left) (time right, key right)
  have trans (left middle right : Entry) :
      older left middle = true → older middle right = true → older left right = true :=
    isOlderKey_trans _ _ _
  have ordered : (entries.mergeSort older).Pairwise fun left right => older left right = true :=
    List.pairwise_mergeSort trans (fun _ _ => isOlderKey_total _ _) entries
  have apart : (entries.mergeSort older).Pairwise fun left right => key left ≠ key right :=
    List.pairwise_map.mp (((List.mergeSort_perm entries older).map key).nodup_iff.mpr distinct)
  refine (ordered.and apart).imp fun {left right} both => ?_
  rw [← Bool.not_eq_true]
  exact fun younger => both.2 (congrArg Prod.snd (eq_of_isOlderKey both.1 younger))

end OlderKey

namespace PolicyRecord

variable {left middle right : PolicyRecord}

/-- What records are ordered by. -/
def key (record : PolicyRecord) : Instant × String :=
  (record.createdAt, record.id)

theorem isOlder_iff :
    left.isOlder right = true ↔
      left.createdAt.lt right.createdAt = true ∨
        right.createdAt.lt left.createdAt = false ∧ left.id ≤ right.id :=
  @isOlderKey_iff left.key right.key

theorem isOlder_total
    (left right : PolicyRecord) :
    (left.isOlder right || right.isOlder left) = true :=
  isOlderKey_total left.key right.key

theorem isOlder_trans
    (left middle right : PolicyRecord)
    (leftOlder : left.isOlder middle = true)
    (middleOlder : middle.isOlder right = true) :
    left.isOlder right = true :=
  isOlderKey_trans left.key middle.key right.key leftOlder middleOlder

/-- Older than a record that is not older in turn. -/
def Precedes (left right : PolicyRecord) : Prop :=
  right.isOlder left = false

instance : Decidable (left.Precedes right) :=
  inferInstanceAs (Decidable (right.isOlder left = false))

/-- What precedes a record is older. -/
theorem Precedes.isOlder
    (precedes : left.Precedes right) :
    left.isOlder right = true := by
  have total := isOlder_total left right
  rw [Precedes] at precedes
  simpa [precedes] using total

theorem precedes_of_lt
    (before : left.createdAt.lt right.createdAt = true) :
    left.Precedes right := by
  rw [Precedes, ← Bool.not_eq_true, isOlder_iff]
  rintro (after | ⟨notBefore, -⟩)
  · rw [Instant.not_lt_of_lt before] at after
    cases after
  · rw [before] at notBefore
    cases notBefore

end PolicyRecord

theorem oldestFirst_perm
    (records : List PolicyRecord) :
    (oldestFirst records).Perm records :=
  List.mergeSort_perm records _

/-- Records with distinct identifiers are put in strict order. -/
theorem oldestFirst_strict
    {records : List PolicyRecord}
    (distinctIds : (records.map (·.id)).Nodup) :
    (oldestFirst records).Pairwise PolicyRecord.Precedes :=
  sorted_strict distinctIds

/-- Records in strict order that are older than each other are one record. -/
theorem eq_of_isOlder
    {ordered : List PolicyRecord}
    {left right : PolicyRecord}
    (strict : ordered.Pairwise PolicyRecord.Precedes)
    (leftMember : left ∈ ordered)
    (rightMember : right ∈ ordered)
    (leftOlder : left.isOlder right = true)
    (rightOlder : right.isOlder left = true) :
    left = right := by
  induction strict with
  | nil => cases leftMember
  | cons precedes _ inductionHypothesis =>
      rcases List.mem_cons.mp leftMember with rfl | leftInRest
      · rcases List.mem_cons.mp rightMember with rfl | rightInRest
        · rfl
        · rw [precedes right rightInRest] at rightOlder
          cases rightOlder
      · rcases List.mem_cons.mp rightMember with rfl | rightInRest
        · rw [precedes left leftInRest] at leftOlder
          cases leftOlder
        · exact inductionHypothesis leftInRest rightInRest

/-- There is one way to put records in strict order. -/
theorem oldestFirst_eq_of_perm
    {records ordered : List PolicyRecord}
    (strict : ordered.Pairwise PolicyRecord.Precedes)
    (same : records.Perm ordered) :
    oldestFirst records = ordered := by
  apply List.Perm.eq_of_pairwise _ _ (strict.imp PolicyRecord.Precedes.isOlder)
    ((oldestFirst_perm records).trans same)
  · intro left right leftMember rightMember
    exact eq_of_isOlder strict (((oldestFirst_perm records).trans same).mem_iff.mp leftMember)
      rightMember
  · exact List.pairwise_mergeSort PolicyRecord.isOlder_trans PolicyRecord.isOlder_total records

end IntentPolicy
