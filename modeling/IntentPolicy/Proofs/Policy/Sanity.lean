import IntentPolicy.Proofs.Policy.Refining
import IntentPolicy.Proofs.Policy.Refusal

namespace IntentPolicy

/-!
# What policies can hold

A sentence that is refined at rates that were entered by hand leads to policies that can be
enforced: no amount is below zero, points of the day come in pairs, and the blockchains that are
admitted are those that the sentence allows.
-/

/-- Every rate of the table was accepted when it was entered. -/
def RateTable.WasEntered (rates : RateTable) : Prop :=
  ∀ currency rate, rates.lookup currency = some rate →
    ∃ currencyText rateText, readRateEntry currencyText rateText = .ok (currency, rate)

/-- The blockchains that a policy admits, which are all if its pool lists none. -/
def Policy.admitted (policy : Policy) : WordSet Blockchain :=
  if policy.pool.isEmpty then WordSet.empty.complement else policy.pool

/-- The blockchains that a sentence allows for the best by a profile. -/
def PoolClause.allowed : PoolClause → WordSet Blockchain
  | .everyChain => WordSet.empty.complement
  | .only chains => .ofList chains.items
  | .without chains => (WordSet.ofList chains.items).complement

/-- The blockchains that a selection allows. -/
def SelectionClause.allowed : SelectionClause → WordSet Blockchain
  | .single blockchain => .ofList [blockchain]
  | .best _ _ pool => pool.allowed

/-- A policy that can be enforced. -/
structure Policy.IsSane (policy : Policy) : Prop where
  canonical : policy.currency = .usd
  notBelowZero : policy.threshold.negative = false
  notTuring : policy.turingComplete = false
  pairedMarkers : policy.timeframeStart = .anyTime ↔ policy.timeframeEnd = .anyTime
  unbounded : policy.interval = .unbounded →
    policy.threshold = .zero ∧ policy.timeframeStart = .anyTime ∧ policy.timeframeEnd = .anyTime

section Amounts

variable {amount rate converted : Decimal} {rates : RateTable} {intent : Intent}

theorem Decimal.not_negative_of_follows
    (follows : converted.Follows amount)
    (notBelow : amount.negative = false) :
    converted.negative = false := by
  rw [Bool.eq_false_iff]
  intro below
  rw [follows.sameSign below] at notBelow
  cases notBelow

theorem Decimal.not_negative_of_mul?
    (multiplied : amount.mul? rate = some converted)
    (notBelow : amount.negative = false)
    (rateNotBelow : rate.negative = false) :
    converted.negative = false := by
  rw [Bool.eq_false_iff]
  intro below
  exact (parts_of_mul? multiplied).2 below (notBelow.trans rateNotBelow.symm)

theorem Decimal.not_negative_of_isPositive
    (positive : amount.isPositive = true) :
    amount.negative = false := by
  rw [Bool.eq_false_iff]
  intro below
  rw [isPositive, units, below, decide_eq_true_eq] at positive
  simp only [↓reduceIte] at positive
  omega

/-- A rate that is accepted is not below zero. -/
theorem not_negative_of_readRateEntry
    {currencyText rateText : String}
    {currency : Currency}
    (accepted : readRateEntry currencyText rateText = .ok (currency, rate)) :
    rate.negative = false := by
  unfold readRateEntry at accepted
  split at accepted
  · cases accepted
  · split at accepted
    · cases accepted
    · split at accepted
      · cases accepted
      · next entered _ =>
          split at accepted
          · next positive =>
              obtain ⟨-, rfl⟩ := Prod.mk.inj (Except.ok.inj accepted)
              exact Decimal.not_negative_of_follows entered.normalize_follows
                (Decimal.not_negative_of_isPositive positive)
          · cases accepted

/-- Converting an amount does not take it below zero. -/
theorem RateTable.WasEntered.not_negative_toCanonical
    {currency : Option Currency}
    (entered : rates.WasEntered)
    (notBelow : amount.negative = false)
    (made : rates.toCanonical amount currency = .ok converted) :
    converted.negative = false := by
  by_cases canonical : ∀ named ∈ currency, ¬ named.IsForeign
  · rw [toCanonical_canonical canonical] at made
    obtain rfl := Except.ok.inj made
    exact Decimal.not_negative_of_follows amount.normalize_follows notBelow
  · simp only [not_forall, not_not] at canonical
    obtain ⟨named, rfl, foreign⟩ := canonical
    rw [toCanonical_foreign foreign] at made
    cases rated : rates.lookup named with
    | none =>
        rw [rated] at made
        cases made
    | some rate =>
        obtain ⟨_, _, accepted⟩ := entered named rate rated
        cases multiplied : amount.mul? rate with
        | none => simp [rated, multiplied] at made
        | some product =>
            simp only [rated, multiplied, Except.ok.injEq] at made
            subst made
            exact Decimal.not_negative_of_follows product.normalize_follows
              (Decimal.not_negative_of_mul? multiplied notBelow
                (not_negative_of_readRateEntry accepted))

theorem RateTable.WasEntered.not_negative_canonicalThreshold
    (entered : rates.WasEntered)
    (wellFormed : intent.IsWellFormed)
    (made : rates.canonicalThreshold intent = .ok converted) :
    converted.negative = false := by
  rw [canonicalThreshold] at made
  cases bounded : intent.threshold with
  | none =>
      rw [bounded] at made
      rw [← Except.ok.inj made]
      rfl
  | some amount =>
      rw [bounded] at made
      exact entered.not_negative_toCanonical (wellFormed.notBelowZero amount bounded) made

end Amounts

/-- The points of the day of a timeframe are points, both of them. -/
theorem Timeframe.markers_ne
    (timeframe : Timeframe) :
    timeframe.markers.1 ≠ .anyTime ∧ timeframe.markers.2 ≠ .anyTime := by
  cases timeframe <;> decide

theorem Interval.policyInterval_ne
    (interval : Interval) :
    interval.policyInterval ≠ .unbounded := by
  cases interval <;> decide

/-- Filters raise criteria of a policy and leave everything else as it is. -/
theorem Baselines.raiseAll_frame
    (baselines : Baselines)
    (filters : List Filter)
    (policy : Policy) :
    ∃ chainType minTxRate maxTxCost minPopularity minStability,
      filters.foldl baselines.raise policy =
        { policy with chainType, minTxRate, maxTxCost, minPopularity, minStability } := by
  induction filters generalizing policy with
  | nil => exact ⟨_, _, _, _, _, rfl⟩
  | cons filter filters inductionHypothesis =>
      obtain ⟨_, _, _, _, _, raised⟩ := inductionHypothesis (baselines.raise policy filter)
      rw [List.foldl_cons, raised]
      cases filter <;> exact ⟨_, _, _, _, _, rfl⟩

section Pools

variable {policy : Policy} {selection : SelectionClause} {intent : Intent}

/-- A pool that lists something is what is admitted. -/
theorem Policy.admitted_of_mem
    {blockchain : Blockchain}
    (listed : blockchain ∈ policy.pool) :
    policy.admitted = policy.pool := by
  have notEmpty : policy.pool.isEmpty ≠ true := fun isEmpty =>
    WordSet.isEmpty_iff.mp isEmpty blockchain listed
  rw [admitted, if_neg notEmpty]

theorem Policy.admitted_ne_empty
    (policy : Policy) :
    policy.admitted ≠ .empty := by
  intro noneAdmitted
  have notAdmitted (blockchain : Blockchain) : blockchain ∉ policy.admitted := by
    rw [noneAdmitted]
    exact WordSet.not_mem_empty
  by_cases isEmpty : policy.pool.isEmpty = true
  · rw [admitted, if_pos isEmpty] at notAdmitted
    exact notAdmitted .bitcoin (WordSet.mem_complement.mpr WordSet.not_mem_empty)
  · rw [admitted, if_neg isEmpty] at notAdmitted
    exact isEmpty (WordSet.isEmpty_iff.mpr notAdmitted)

theorem Series.isEmpty_ofList
    (chains : Series Blockchain) :
    (WordSet.ofList chains.items).isEmpty = false := by
  rw [Bool.eq_false_iff]
  intro isEmpty
  have first : chains.first ∈ WordSet.ofList chains.items :=
    WordSet.mem_ofList.mpr List.mem_cons_self
  exact WordSet.isEmpty_iff.mp isEmpty chains.first first

/-- What a selection means is admitted as what the selection allows. -/
theorem SelectionClause.admitted_eq
    (blockchain : intent.blockchain = selection.meaning.blockchain)
    (whitelist : intent.whitelist = selection.meaning.whitelist)
    (blacklist : intent.blacklist = selection.meaning.blacklist)
    (made : intent.admittedPool = .ok policy.pool) :
    policy.admitted = selection.allowed := by
  rw [Intent.admittedPool, blockchain, whitelist, blacklist] at made
  have noneEmpty : (WordSet.empty : WordSet Blockchain).isEmpty = true := rfl
  cases selection with
  | single chain =>
      have isPool : WordSet.ofList [chain] = policy.pool := Except.ok.inj made
      have listed : chain ∈ policy.pool := by rw [← isPool]; simp
      rw [Policy.admitted_of_mem listed, ← isPool, allowed]
  | best profile filters pool =>
      cases pool with
      | everyChain =>
          have isPool : WordSet.empty = policy.pool := by simpa [meaning, noneEmpty] using made
          rw [Policy.admitted, ← isPool, if_pos noneEmpty, allowed, PoolClause.allowed]
      | only chains =>
          have isPool : WordSet.ofList chains.items = policy.pool := by
            simpa [meaning, chains.isEmpty_ofList] using made
          rw [Policy.admitted, ← isPool, chains.isEmpty_ofList, if_neg Bool.false_ne_true, allowed,
            PoolClause.allowed]
      | without chains =>
          -- An empty complement is refused, so that it is not taken for all blockchains.
          by_cases noneLeft : (WordSet.ofList chains.items).complement.isEmpty = true
          · simp [meaning, noneEmpty, chains.isEmpty_ofList, noneLeft] at made
          · have isPool : (WordSet.ofList chains.items).complement = policy.pool := by
              simpa [meaning, noneEmpty, chains.isEmpty_ofList, noneLeft] using made
            rw [Policy.admitted, ← isPool, if_neg noneLeft, allowed, PoolClause.allowed]

end Pools

namespace Translator

variable {rates : RateTable} {baselines : Baselines} {intent : Intent} {policies : List Policy}
  {policy : Policy}

/-- A policy has the bounds of its intent, and what filters and users make of the rest. -/
theorem exists_base_of_translate
    (translated : (⟨rates, baselines⟩ : Translator).translate intent = .ok policies)
    (member : policy ∈ policies) :
    rates.canonicalThreshold intent = .ok policy.threshold ∧
      intent.admittedPool = .ok policy.pool ∧
      ∃ user chainType minTxRate maxTxCost minPopularity minStability,
        policy =
          { intent.basePolicy policy.threshold policy.pool with
            user, chainType, minTxRate, maxTxCost, minPopularity, minStability } := by
  obtain ⟨template, made, rfl⟩ := exists_template_of_translate translated
  obtain ⟨user, -, rfl⟩ := List.mem_map.mp member
  rw [Translator.template] at made
  cases converted : rates.canonicalThreshold intent with
  | error error =>
      rw [converted] at made
      cases made
  | ok threshold =>
      cases listed : intent.admittedPool with
      | error error =>
          rw [converted, listed] at made
          cases made
      | ok pool =>
          rw [converted, listed] at made
          obtain ⟨_, _, _, _, _, raised⟩ := baselines.raiseAll_frame intent.filters.toList
            (intent.basePolicy threshold pool)
          obtain rfl := (Except.ok.inj made).symm.trans raised
          exact ⟨rfl, rfl, _, _, _, _, _, _, rfl⟩

/-- The policies of a well-formed intent at rates that were entered can be enforced. -/
theorem isSane_of_translate
    (entered : rates.WasEntered)
    (wellFormed : intent.IsWellFormed)
    (translated : (⟨rates, baselines⟩ : Translator).translate intent = .ok policies)
    (member : policy ∈ policies) :
    policy.IsSane := by
  obtain ⟨converted, -, _, _, _, _, _, _, base⟩ := exists_base_of_translate translated member
  have notBelowZero := entered.not_negative_canonicalThreshold wellFormed converted
  rw [base]
  constructor
  case canonical => rfl
  case notBelowZero => exact notBelowZero
  case notTuring => rfl
  case pairedMarkers =>
    cases held : intent.timeframe with
    | none => simp [Intent.basePolicy, held]
    | some timeframe => simp [Intent.basePolicy, held, timeframe.markers_ne]
  case unbounded =>
    intro isUnbounded
    cases bound : intent.interval with
    | some interval =>
        simp [Intent.basePolicy, bound, interval.policyInterval_ne] at isUnbounded
    | none =>
        have noThreshold : intent.threshold = none := by
          have bounded := wellFormed.bounded
          rwa [bound, Option.isSome_none, Option.isSome_eq_false_iff,
            Option.isNone_iff_eq_none] at bounded
        rw [RateTable.canonicalThreshold, noThreshold] at converted
        have zero : policy.threshold = .zero := (Except.ok.inj converted).symm
        simp [Intent.basePolicy, (wellFormed.unbounded bound).2, zero]

end Translator

/--
Policies are sane.  At rates that were accepted when they were entered, every policy that a
sentence is refined to is in the canonical currency, with an amount that is not below zero and
with both points of the day or none, and without an interval it has neither; it admits some
blockchain, and exactly those that the sentence allows.
-/
theorem refined_policies_are_sane
    (rates : RateTable)
    (baselines : Baselines)
    (text : String)
    (intent : Intent)
    (policies : List Policy)
    (entered : rates.WasEntered)
    (refined : (⟨rates, baselines⟩ : Translator).refine text = .ok (intent, policies)) :
    ∃ sentence : Sentence, tokenize text = sentence.tokens ∧ intent = sentence.meaning ∧
      ∀ policy ∈ policies, policy.IsSane ∧ policy.admitted ≠ .empty ∧
        policy.admitted = sentence.selection.allowed := by
  obtain ⟨parsed, translated⟩ := Translator.parsed_of_refine refined
  rw [parseSentence, Parser.run_eq_ok_iff_sentence] at parsed
  obtain ⟨sentence, tokens, compatible, rfl⟩ := parsed
  refine ⟨sentence, tokens, rfl, fun policy member => ?_⟩
  have sane := Translator.isSane_of_translate entered (sentence.meaning_isWellFormed compatible)
    translated member
  obtain ⟨-, blockchain, -, -, whitelist, blacklist⟩ := sentence.meaning_selection
  have pool := (Translator.exists_base_of_translate translated member).2.1
  exact ⟨sane, policy.admitted_ne_empty,
    SelectionClause.admitted_eq blockchain whitelist blacklist pool⟩

/-- An amount in euros is converted at a rate that was entered, and one blockchain is left out. -/
theorem refined_policies_are_sane_in_euros :
    let rate : Decimal := ⟨⟨11, 1, by decide, by decide⟩, false⟩
    let rates := RateTable.empty.set .eur rate
    let text := "for ann, bob in the morning select the cheapest blockchain except bitcoin " ++
      "until the daily costs reach eur 10"
    let others : WordSet Blockchain := (WordSet.ofList [.bitcoin]).complement
    ∃ intent policies, (⟨rates, {}⟩ : Translator).refine text = .ok (intent, policies) ∧
      policies.map (·.threshold.text) = ["11", "11"] ∧
      ∀ policy ∈ policies, policy.IsSane ∧ policy.admitted = others := by
  intro rate rates text others
  have entered : rates.WasEntered := by
    intro currency held found
    refine ⟨"EUR", "1.10", ?_⟩
    have accepted : readRateEntry "EUR" "1.10" = .ok (.eur, rate) := by decide +kernel
    cases currency with
    | eur =>
        obtain rfl := Option.some.inj found
        exact accepted
    | chf => cases found
    | usd => cases found
  have amounts : ((⟨rates, {}⟩ : Translator).refine text).toOption.map
      (fun refined => refined.2.map (·.threshold.text)) = some ["11", "11"] := by decide +kernel
  have pools : ((⟨rates, {}⟩ : Translator).refine text).toOption.map
      (fun refined => refined.2.map Policy.admitted) = some [others, others] := by decide +kernel
  cases refined : (⟨rates, {}⟩ : Translator).refine text with
  | error error =>
      rw [refined] at amounts
      cases amounts
  | ok refinement =>
      obtain ⟨intent, policies⟩ := refinement
      rw [refined] at amounts pools
      obtain ⟨sentence, -, -, sane⟩ :=
        refined_policies_are_sane rates {} text intent policies entered refined
      refine ⟨intent, policies, rfl, Option.some.inj amounts, fun policy member => ?_⟩
      have allowed : policies.map Policy.admitted = [others, others] := Option.some.inj pools
      have admitted := List.mem_map_of_mem member (f := Policy.admitted)
      rw [allowed] at admitted
      exact ⟨(sane policy member).1, by simpa using admitted⟩

end IntentPolicy
