import IntentPolicy.Proofs.Sentence.Meaning
import IntentPolicy.Proofs.Sentence.ThresholdText

namespace IntentPolicy

/-!
# Canonical sentences

Every sentence has a canonical one of the same meaning: nothing is named twice, sets are
listed in the order of their vocabulary, lists have commas and a final `and`, and nothing
stands in it that its meaning forgets.
-/

namespace Series

variable {Item : Type}

/-- Items behind the first one, with commas in front of all but the last. -/
def othersOf : List Item → List (Separator × Item)
  | [] => []
  | [last] => [(.conjunction, last)]
  | item :: rest => (.comma, item) :: othersOf rest

/-- The series of a first item and others, with commas and a final `and`. -/
def joined (first : Item) (rest : List Item) : Series Item :=
  ⟨first, othersOf rest⟩

/-- The series of a list of items, if there are any. -/
def ofList? : List Item → Option (Series Item)
  | [] => none
  | first :: rest => some (joined first rest)

/-- A joined series has the items that it was joined from. -/
@[simp]
theorem items_joined
    (first : Item)
    (rest : List Item) :
    (joined first rest).items = first :: rest := by
  have others : (othersOf rest).map (·.2) = rest := by
    induction rest with
    | nil => rfl
    | cons item later inductionHypothesis =>
        cases later with
        | nil => rfl
        | cons next further => rw [othersOf, List.map_cons, inductionHypothesis]; simp
  rw [items, joined, others]

/-- The series of a list has the items of the list. -/
@[simp]
theorem items_ofList?
    (items : List Item) :
    (ofList? items).elim [] Series.items = items := by
  cases items with
  | nil => rfl
  | cons first rest => exact items_joined first rest

variable {Value : Type} [DecidableEq Value] [Vocabulary Value]

/-- The same values in the order of their vocabulary, each once. -/
def ordered (series : Series Value) : Series Value :=
  match (WordSet.ofList series.items).toList with
  | [] => series
  | first :: rest => joined first rest

/-- The set of the values of a series has members, and they make up the ordered series. -/
theorem ordered_eq_joined
    (series : Series Value) :
    ∃ first rest, (WordSet.ofList series.items).toList = first :: rest ∧
      series.ordered = joined first rest := by
  have firstMember : series.first ∈ (WordSet.ofList series.items).toList :=
    WordSet.mem_ofList.mpr (List.mem_cons_self ..)
  rw [ordered]
  cases shape : (WordSet.ofList series.items).toList with
  | nil =>
      rw [shape] at firstMember
      cases firstMember
  | cons first rest => exact ⟨first, rest, rfl, rfl⟩

/-- The values of an ordered series are the members of the set of values. -/
theorem items_ordered
    (series : Series Value) :
    series.ordered.items = (WordSet.ofList series.items).toList := by
  obtain ⟨first, rest, members, orderedShape⟩ := series.ordered_eq_joined
  rw [orderedShape, members, items_joined]

/-- The members of the set of a series make up the ordered series. -/
theorem ofList?_toList
    (series : Series Value) :
    ofList? (WordSet.ofList series.items).toList = some series.ordered := by
  obtain ⟨first, rest, members, orderedShape⟩ := series.ordered_eq_joined
  rw [orderedShape, members, ofList?]

end Series

/-- What has no repetition left loses nothing when repetitions are erased again. -/
theorem eraseDups_eraseDups
    (texts : List String) :
    texts.eraseDups.eraseDups = texts.eraseDups := by
  -- Erasing goes on behind the first text with fewer texts, not with the tail.
  induction size : texts.length using Nat.strong_induction_on generalizing texts with
  | h length inductionHypothesis =>
      cases texts with
      | nil => rfl
      | cons text rest =>
          have shorter : (rest.filter fun other => !other == text).length < length := by
            rw [← size, List.length_cons]
            exact Nat.lt_succ_of_le (List.length_filter_le _ _)
          have kept :
              (rest.filter fun other => !other == text).eraseDups.filter
                  (fun other => !other == text) =
                (rest.filter fun other => !other == text).eraseDups := by
            apply List.filter_eq_self.mpr
            intro other member
            exact (List.mem_filter.mp (List.mem_eraseDups.mp member)).2
          rw [List.eraseDups_cons, List.eraseDups_cons, kept,
            inductionHypothesis _ shorter _ rfl]

/-- The same users, each where it is named first. -/
def Series.distinct (users : Series String) : Series String :=
  joined users.first ((users.others.map (·.2)).filter fun user => !user == users.first).eraseDups

/-- The users of a distinct series are those that are named, without repetition. -/
theorem Series.items_distinct
    (users : Series String) :
    users.distinct.items = users.items.eraseDups := by
  rw [distinct, items_joined, items, List.eraseDups_cons]

/-- The same admitted blockchains in the order of the vocabulary. -/
def PoolClause.canonical : PoolClause → PoolClause
  | .everyChain => .everyChain
  | .only chains => .only chains.ordered
  | .without chains => .without chains.ordered

/-- The same selection, with the filters that are recorded. -/
def SelectionClause.canonical : SelectionClause → SelectionClause
  | .single blockchain => .single blockchain
  | .best profile filters pool =>
      .best profile (Series.ofList? (profile.recordedFilters (filters.elim [] Series.items)).toList)
        pool.canonical

/-- The text of the amount of a threshold, which is read as the same amount. -/
def ThresholdToken.canonical (threshold : ThresholdToken) : ThresholdToken where
  token := threshold.amount.text
  amount := threshold.amount
  reads := Decimal.readThreshold_text (not_negative_of_readThreshold threshold.reads)
    (Decimal.normalize_of_readThreshold threshold.reads)

/-- The same bound on costs. -/
def CostClause.canonical : CostClause → CostClause
  | .bounded interval currency threshold => .bounded interval currency threshold.canonical
  | .unbounded => .unbounded

/-- The sentence of the same meaning in its canonical form. -/
def Sentence.canonical (sentence : Sentence) : Sentence where
  users := sentence.users.distinct
  timeframe := match sentence.cost with
    | .bounded _ _ _ => sentence.timeframe
    | .unbounded => none
  selection := sentence.selection.canonical
  modifiers :=
    Series.ofList? (WordSet.ofList (sentence.modifiers.elim [] Series.items)).toList
  cost := sentence.cost.canonical

/-- Recording the recorded filters again records nothing else. -/
theorem Profile.recordedFilters_toList
    (profile : Profile)
    (named : List Filter) :
    profile.recordedFilters (profile.recordedFilters named).toList =
      profile.recordedFilters named := by
  apply WordSet.ext
  intro filter
  rw [mem_recordedFilters]
  change filter ∈ profile.recordedFilters named ∧ _ ↔ _
  rw [mem_recordedFilters]
  constructor
  · rintro ⟨recorded, -⟩
    exact recorded
  · intro recorded
    exact ⟨recorded, recorded.2⟩

namespace SelectionClause

/-- A canonical selection means the same. -/
theorem meaning_canonical
    (selection : SelectionClause) :
    selection.canonical.meaning = selection.meaning := by
  cases selection with
  | single blockchain => rfl
  | best profile filters pool =>
      cases pool <;>
        simp [canonical, meaning, PoolClause.canonical, Profile.recordedFilters_toList,
          Series.items_ordered]

/-- The filters of a canonical selection are compatible if those of the selection are. -/
theorem areCompatible_canonical
    {selection : SelectionClause}
    (compatible : AreCompatible selection.namedFilters) :
    AreCompatible selection.canonical.namedFilters := by
  cases selection with
  | single blockchain => exact compatible
  | best profile filters pool =>
      have named {filter : Filter}
          (member : filter ∈ (canonical (.best profile filters pool)).namedFilters) :
          filter ∈ namedFilters (.best profile filters pool) := by
        rw [canonical, namedFilters, Series.items_ofList?] at member
        exact (Profile.mem_recordedFilters.mp member).1
      rintro ⟨privateNamed, publicNamed⟩
      exact compatible ⟨named privateNamed, named publicNamed⟩

end SelectionClause

/-- A canonical sentence means the same. -/
theorem Sentence.meaning_canonical
    (sentence : Sentence) :
    sentence.canonical.meaning = sentence.meaning := by
  cases cost : sentence.cost <;>
    simp [meaning, canonical, cost, CostClause.canonical, SelectionClause.meaning_canonical,
      Series.items_distinct, eraseDups_eraseDups, ThresholdToken.canonical]

end IntentPolicy
