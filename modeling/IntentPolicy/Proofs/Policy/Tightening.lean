import IntentPolicy.Proofs.Configuration.Precedence
import IntentPolicy.Proofs.Policy.Refining

namespace IntentPolicy

/-!
# What added filters demand

A filter sets its criterion to the baseline, whatever the criterion was.  In a configuration
without flaws that demands no less popularity and stability than before, but it demands a lower
rate of transactions where the baseline is below the rate of a policy without filters.
-/

/-- The intent with more filters. -/
def Intent.withFilters (intent : Intent) (added : List Filter) : Intent :=
  { intent with filters := .ofTest fun filter => decide (filter ∈ intent.filters ∨ filter ∈ added) }

namespace Policy

/-- For the same user a policy demands at least the popularity and the stability of another. -/
structure DemandsShares (policy other : Policy) : Prop where
  user : policy.user = other.user
  popularity : other.minPopularity.le policy.minPopularity = true
  stability : other.minStability.le policy.minStability = true

/-- For the same user a policy demands at least what another does. -/
structure Demands (policy other : Policy) : Prop extends DemandsShares policy other where
  rate : other.minTxRate ≤ policy.minTxRate

end Policy

namespace Double

variable {number other : Double}

theorem le_self
    (isNumber : number.isNaN = false) :
    number.le number = true := by
  simp [le, isNumber]

/-- What is in the order of numbers at all is at most itself. -/
theorem le_self_of_le
    (ordered : other.le number = true) :
    number.le number = true := by
  simp only [le, Bool.and_eq_true, Bool.not_eq_true'] at ordered
  exact le_self ordered.1.2

end Double

/-! ## One criterion -/

/-- A filter sets a criterion to its baseline, and no other filter changes the criterion. -/
structure Baselines.Raises {Criterion : Type} (baselines : Baselines) (filter : Filter)
    (criterion : Policy → Criterion) (baseline : Criterion) : Prop where
  raised : ∀ policy, criterion (baselines.raise policy filter) = baseline
  kept : ∀ policy, ∀ other ≠ filter, criterion (baselines.raise policy other) = criterion policy

namespace Baselines

variable {baselines : Baselines}

theorem raises_minTxRate :
    baselines.Raises .fast (·.minTxRate) baselines.minTxRate where
  raised := fun _ => rfl
  kept policy other different := by cases other <;> first | rfl | exact (different rfl).elim

theorem raises_minPopularity :
    baselines.Raises .popular (·.minPopularity) baselines.minPopularity where
  raised := fun _ => rfl
  kept policy other different := by cases other <;> first | rfl | exact (different rfl).elim

theorem raises_minStability :
    baselines.Raises .stable (·.minStability) baselines.minStability where
  raised := fun _ => rfl
  kept policy other different := by cases other <;> first | rfl | exact (different rfl).elim

namespace Raises

variable {Criterion : Type} {criterion : Policy → Criterion} {baseline : Criterion}
  {filter : Filter}

/-- Filters leave a criterion as it was, or at its baseline if its filter is one of them. -/
theorem criterion_raiseAll
    (raises : baselines.Raises filter criterion baseline)
    (filters : List Filter)
    (policy : Policy) :
    criterion (filters.foldl baselines.raise policy) =
      if filter ∈ filters then baseline else criterion policy := by
  induction filters generalizing policy with
  | nil => rfl
  | cons first filters inductionHypothesis =>
      rw [List.foldl_cons, inductionHypothesis]
      by_cases again : filter ∈ filters
      · rw [if_pos again, if_pos (List.mem_cons_of_mem first again)]
      · rw [if_neg again]
        by_cases isFirst : first = filter
        · rw [isFirst, raises.raised, if_pos List.mem_cons_self]
        · have notNamed : filter ∉ first :: filters := by
            simp [again, Ne.symm isFirst]
          rw [raises.kept policy first isFirst, if_neg notNamed]

/--
With more filters a criterion is at least what it was, exactly if its filter is not new or its
baseline is at least what the criterion is without filters.
-/
theorem atLeast_raiseAll_iff
    (raises : baselines.Raises filter criterion baseline)
    (AtLeast : Criterion → Criterion → Prop)
    (intent : Intent)
    (added : List Filter)
    (policy : Policy)
    (baselineItself : AtLeast baseline baseline)
    (policyItself : AtLeast (criterion policy) (criterion policy)) :
    AtLeast (criterion ((intent.withFilters added).filters.toList.foldl baselines.raise policy))
        (criterion (intent.filters.toList.foldl baselines.raise policy)) ↔
      (filter ∈ added → filter ∈ intent.filters ∨ AtLeast baseline (criterion policy)) := by
  have withAdded : filter ∈ (intent.withFilters added).filters.toList ↔
      filter ∈ intent.filters ∨ filter ∈ added := by
    change filter ∈ (intent.withFilters added).filters ↔ _
    simp [Intent.withFilters]
  have without : filter ∈ intent.filters.toList ↔ filter ∈ intent.filters := Iff.rfl
  rw [raises.criterion_raiseAll, raises.criterion_raiseAll]
  by_cases before : filter ∈ intent.filters
  · simp [withAdded, without, before, baselineItself]
  · by_cases new : filter ∈ added <;> simp [withAdded, without, before, new, policyItself]

end Raises

end Baselines

/-! ## Both translations -/

namespace Translator

variable {translator : Translator} {intent : Intent} {policies before : List Policy}

/-- An intent is translated where it is complete, converted and left with a blockchain. -/
theorem translate_eq_ok_iff :
    translator.translate intent = .ok policies ↔
      intent.checkComplete = .ok () ∧ ∃ threshold pool,
        translator.rates.canonicalThreshold intent = .ok threshold ∧
          intent.admittedPool = .ok pool ∧
          policies = (distinctUsers intent.users).map fun user =>
            { intent.filters.toList.foldl translator.baselines.raise
                (intent.basePolicy threshold pool) with user := user } := by
  simp only [translate, template, bind_eq_ok_iff]
  constructor
  · rintro ⟨⟨⟩, complete, template, ⟨threshold, converted, pool, admitted, made⟩, translated⟩
    rw [← Except.ok.inj translated, ← Except.ok.inj made]
    exact ⟨complete, threshold, pool, converted, admitted, rfl⟩
  · rintro ⟨complete, threshold, pool, converted, admitted, rfl⟩
    exact ⟨(), complete, _, ⟨threshold, converted, pool, admitted, rfl⟩, rfl⟩

/-- More filters do not keep an intent from being translated, and change what they raise. -/
theorem exists_translate_withFilters
    (translated : translator.translate intent = .ok before)
    (added : List Filter) :
    ∃ threshold pool,
      let base := intent.basePolicy threshold pool
      let raised (filters : WordSet Filter) : List Policy :=
        (distinctUsers intent.users).map fun user =>
          { filters.toList.foldl translator.baselines.raise base with user := user }
      before = raised intent.filters ∧
        translator.translate (intent.withFilters added) =
          .ok (raised (intent.withFilters added).filters) := by
  obtain ⟨complete, threshold, pool, converted, admitted, rfl⟩ := translate_eq_ok_iff.mp translated
  refine ⟨threshold, pool, rfl, translate_eq_ok_iff.mpr ?_⟩
  exact ⟨complete, threshold, pool, converted, admitted, rfl⟩

end Translator

/-- In a sound configuration, more filters demand no less popularity and stability. -/
theorem Settings.IsSound.demandsShares
    {settings : Settings}
    (sound : settings.IsSound)
    (intent : Intent)
    (added : List Filter)
    (threshold : Decimal)
    (pool : WordSet Blockchain)
    (user : String) :
    let base := intent.basePolicy threshold pool
    let raised (filters : WordSet Filter) : Policy :=
      { filters.toList.foldl settings.selection.raise base with user := user }
    (raised (intent.withFilters added).filters).DemandsShares (raised intent.filters) := by
  intro base raised
  have zeroItself : Double.zero.le Double.zero = true := Double.le_self (by decide)
  constructor
  case user => rfl
  case popularity =>
    apply (Baselines.raises_minPopularity.atLeast_raiseAll_iff
      (fun raised start => start.le raised = true) intent added base
      (Double.le_self_of_le sound.popularity.1) zeroItself).mpr
    exact fun _ => Or.inr sound.popularity.1
  case stability =>
    apply (Baselines.raises_minStability.atLeast_raiseAll_iff
      (fun raised start => start.le raised = true) intent added base
      (Double.le_self_of_le sound.stability.1) zeroItself).mpr
    exact fun _ => Or.inr sound.stability.1

/--
In a configuration without flaws, an intent that is translated is also translated with more
filters, to policies for the same users that demand no less popularity and stability.  They all
demand at least what was demanded before exactly if the filter on the rate is not a new one, or
its baseline is at least the rate of a policy without filters.
-/
theorem added_filters_tighten_iff
    {settings : Settings}
    {rates : RateTable}
    {intent : Intent}
    {before : List Policy}
    (noFlaw : settings.flaws = [])
    (translated : (⟨rates, settings.selection⟩ : Translator).translate intent = .ok before)
    (added : List Filter) :
    ∃ after,
      (⟨rates, settings.selection⟩ : Translator).translate (intent.withFilters added) = .ok after ∧
        List.Forall₂ Policy.DemandsShares after before ∧
        (List.Forall₂ Policy.Demands after before ↔
          (.fast ∈ added →
            .fast ∈ intent.filters ∨ ({} : Policy).minTxRate ≤ settings.selection.minTxRate)) := by
  have sound := Settings.isSound_of_flaws noFlaw
  have someUser := Translator.translate_ne_nil translated
  obtain ⟨threshold, pool, rfl, retranslated⟩ :=
    Translator.exists_translate_withFilters translated added
  have demandsShares := sound.demandsShares intent added threshold pool
  have atLeastRate := settings.selection.raises_minTxRate.atLeast_raiseAll_iff
    (fun raised start => start ≤ raised) intent added (intent.basePolicy threshold pool)
    (UInt32.le_refl _) (UInt32.le_refl _)
  refine ⟨_, retranslated, ?_, ?_⟩
  · rw [List.forall₂_map_left_iff, List.forall₂_map_right_iff, List.forall₂_same]
    exact fun user _ => demandsShares user
  · rw [List.forall₂_map_left_iff, List.forall₂_map_right_iff, List.forall₂_same]
    refine Iff.trans ?_ atLeastRate
    constructor
    · intro demands
      obtain ⟨user, member⟩ := List.exists_mem_of_ne_nil _ (by simpa using someUser)
      exact (demands user member).rate
    · intro rate user _
      exact { demandsShares user with rate := rate }

/-- With a baseline of nine a new filter on the rate tightens, as does one on the popularity. -/
theorem added_filters_tighten_iff_at_nine :
    let settings : Settings := { selection := { minTxRate := 9 } }
    let translator : Translator := ⟨.empty, settings.selection⟩
    let intent : Intent :=
      { users := ["ann"], profile := some .cheapest, filters := .ofList [.stable] }
    let policy : Policy := { user := "ann", minStability := .ofRatio false 1 2 }
    let tightened : Policy :=
      { policy with minTxRate := 9, minPopularity := .ofRatio false 1 2 }
    settings.flaws = [] ∧ translator.translate intent = .ok [policy] ∧
      translator.translate (intent.withFilters [.fast, .popular]) = .ok [tightened] ∧
      List.Forall₂ Policy.Demands [tightened] [policy] := by
  intro settings translator intent policy tightened
  have noFlaw : settings.flaws = [] := by decide +kernel
  have translated : translator.translate intent = .ok [policy] := by decide +kernel
  have retranslated : translator.translate (intent.withFilters [.fast, .popular]) =
      .ok [tightened] := by decide +kernel
  obtain ⟨after, answered, -, tightens⟩ :=
    added_filters_tighten_iff noFlaw translated [.fast, .popular]
  obtain rfl := Except.ok.inj (retranslated.symm.trans answered)
  exact ⟨noFlaw, translated, retranslated, tightens.mpr fun _ => Or.inr (by decide)⟩

/-- With a baseline of two, the filter on the rate asks for less than no filter does. -/
theorem added_filter_lowers_rate :
    let settings : Settings := { selection := { minTxRate := 2 } }
    let translator : Translator := ⟨.empty, settings.selection⟩
    let intent : Intent := { users := ["ann"], profile := some .cheapest }
    let policy : Policy := { user := "ann" }
    let lowered : Policy := { policy with minTxRate := 2 }
    settings.flaws = [] ∧ translator.translate intent = .ok [policy] ∧
      translator.translate (intent.withFilters [.fast]) = .ok [lowered] ∧
      ¬ policy.minTxRate ≤ lowered.minTxRate := by
  decide +kernel

end IntentPolicy
