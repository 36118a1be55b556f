import IntentPolicy.Proofs.Sentence.Parsing
import IntentPolicy.Proofs.Sentence.ThresholdText

namespace IntentPolicy

/-!
# What is released

The meaning of a sentence is well formed: it names users, selects in one way, keeps to what the
selection admits, and has a timeframe and an amount only under a bound on its costs.
-/

/-- Everything that an intent is expected to say, and nothing that it is not. -/
structure Intent.IsWellFormed (intent : Intent) : Prop where
  someUser : intent.users ≠ []
  distinctUsers : intent.users.Nodup
  oneSelection : intent.profile.isSome = !intent.blockchain.isSome
  profileOnly : intent.profile = none →
    intent.filters = .empty ∧ intent.whitelist = .empty ∧ intent.blacklist = .empty
  oneList : intent.whitelist = .empty ∨ intent.blacklist = .empty
  compatible : ¬ (Filter.privateChain ∈ intent.filters ∧ Filter.publicChain ∈ intent.filters)
  notImplied : ∀ profile ∈ intent.profile, profile.impliedFilter ∉ intent.filters
  bounded : intent.threshold.isSome = intent.interval.isSome
  notBelowZero : ∀ amount ∈ intent.threshold, amount.negative = false
  unbounded : intent.interval = none → intent.currency = none ∧ intent.timeframe = none

/-- What erasing repetitions leaves has none. -/
theorem nodup_eraseDups
    (texts : List String) :
    texts.eraseDups.Nodup := by
  -- Erasing goes on behind the first text with fewer texts, not with the tail.
  induction size : texts.length using Nat.strong_induction_on generalizing texts with
  | h length inductionHypothesis =>
      cases texts with
      | nil => simp
      | cons text rest =>
          have shorter : (rest.filter fun other => !other == text).length < length := by
            rw [← size, List.length_cons]
            exact Nat.lt_succ_of_le (List.length_filter_le _ _)
          rw [List.eraseDups_cons, List.nodup_cons]
          refine ⟨?_, inductionHypothesis _ shorter _ rfl⟩
          simp [List.mem_eraseDups]

namespace SelectionClause

theorem oneSelection_meaning
    (selection : SelectionClause) :
    selection.meaning.profile.isSome = !selection.meaning.blockchain.isSome := by
  cases selection <;> rfl

theorem profileOnly_meaning
    {selection : SelectionClause}
    (noProfile : selection.meaning.profile = none) :
    selection.meaning.filters = .empty ∧ selection.meaning.whitelist = .empty ∧
      selection.meaning.blacklist = .empty := by
  cases selection with
  | single blockchain => exact ⟨rfl, rfl, rfl⟩
  | best profile filters pool => cases noProfile

/-- Blockchains are admitted or left out, not both. -/
theorem oneList_meaning
    (selection : SelectionClause) :
    selection.meaning.whitelist = .empty ∨ selection.meaning.blacklist = .empty := by
  cases selection with
  | single blockchain => exact Or.inl rfl
  | best profile filters pool =>
      cases pool with
      | everyChain => exact Or.inl rfl
      | only chains => exact Or.inr rfl
      | without chains => exact Or.inl rfl

/-- What is recorded among the filters is named, and not implied. -/
theorem mem_filters_meaning
    {selection : SelectionClause}
    {filter : Filter}
    (recorded : filter ∈ selection.meaning.filters) :
    filter ∈ selection.namedFilters ∧
      ∀ profile ∈ selection.meaning.profile, filter ≠ profile.impliedFilter := by
  cases selection with
  | single blockchain => exact (WordSet.not_mem_empty recorded).elim
  | best profile filters pool =>
      obtain ⟨named, notImplied⟩ := Profile.mem_recordedFilters.mp recorded
      refine ⟨named, fun other isProfile => ?_⟩
      rwa [← Option.some.inj isProfile]

end SelectionClause

namespace Sentence

/-- A sentence means the users that it names and what its selection means. -/
theorem meaning_selection
    (sentence : Sentence) :
    sentence.meaning.users = sentence.users.items.eraseDups ∧
      sentence.meaning.blockchain = sentence.selection.meaning.blockchain ∧
      sentence.meaning.profile = sentence.selection.meaning.profile ∧
      sentence.meaning.filters = sentence.selection.meaning.filters ∧
      sentence.meaning.whitelist = sentence.selection.meaning.whitelist ∧
      sentence.meaning.blacklist = sentence.selection.meaning.blacklist := by
  unfold meaning
  cases sentence.cost <;> exact ⟨rfl, rfl, rfl, rfl, rfl, rfl⟩

/-- An amount stands with an interval, and no time or currency without one. -/
theorem meaning_cost
    (sentence : Sentence) :
    sentence.meaning.threshold.isSome = sentence.meaning.interval.isSome ∧
      (∀ amount ∈ sentence.meaning.threshold, amount.negative = false) ∧
      (sentence.meaning.interval = none →
        sentence.meaning.currency = none ∧ sentence.meaning.timeframe = none) := by
  unfold meaning
  cases sentence.cost with
  | bounded interval currency threshold =>
      refine ⟨rfl, fun amount isThreshold => ?_, fun noInterval => ?_⟩
      · rw [← Option.some.inj isThreshold]
        exact not_negative_of_readThreshold threshold.reads
      · cases noInterval
  | unbounded =>
      cases sentence.selection <;>
        exact ⟨rfl, fun amount isThreshold => (Option.not_mem_none amount isThreshold).elim,
          fun _ => ⟨rfl, rfl⟩⟩

/-- The meaning of a sentence is well formed if its filters are compatible. -/
theorem meaning_isWellFormed
    {sentence : Sentence}
    (compatible : AreCompatible sentence.selection.namedFilters) :
    sentence.meaning.IsWellFormed := by
  obtain ⟨users, blockchain, profile, filters, whitelist, blacklist⟩ := sentence.meaning_selection
  obtain ⟨bounded, notBelowZero, unbounded⟩ := sentence.meaning_cost
  constructor
  case someUser =>
    rw [users, Series.items, List.eraseDups_cons]
    exact List.cons_ne_nil _ _
  case distinctUsers =>
    rw [users]
    exact nodup_eraseDups _
  case oneSelection =>
    rw [profile, blockchain]
    exact sentence.selection.oneSelection_meaning
  case profileOnly =>
    rw [profile, filters, whitelist, blacklist]
    exact SelectionClause.profileOnly_meaning
  case oneList =>
    rw [whitelist, blacklist]
    exact sentence.selection.oneList_meaning
  case compatible =>
    rw [filters]
    rintro ⟨privateRecorded, publicRecorded⟩
    exact compatible ⟨(SelectionClause.mem_filters_meaning privateRecorded).1,
      (SelectionClause.mem_filters_meaning publicRecorded).1⟩
  case notImplied =>
    rw [profile, filters]
    intro implying isProfile recorded
    exact (SelectionClause.mem_filters_meaning recorded).2 implying isProfile rfl
  case bounded => exact bounded
  case notBelowZero => exact notBelowZero
  case unbounded => exact unbounded

end Sentence

end IntentPolicy
