import IntentPolicy.Policy.Translation
import IntentPolicy.Proofs.Sentence.Feeding
import IntentPolicy.Proofs.Sentence.Release

namespace IntentPolicy

/-!
# When an intent has no policies

An intent that was released has policies unless its currency has no rate, its amount is too
large for the canonical currency, or it leaves out every blockchain.
-/

/-- The currency is one that has to be converted. -/
def Currency.IsForeign (currency : Currency) : Prop :=
  currency = .chf ∨ currency = .eur

/-- An amount with a currency that has to be converted is converted at the stored rate. -/
def RateTable.Converts (rates : RateTable) (intent : Intent) : Prop :=
  ∀ amount ∈ intent.threshold, ∀ currency ∈ intent.currency, currency.IsForeign →
    ∃ rate converted, rates.lookup currency = some rate ∧ amount.mul? rate = some converted

/-- Why an intent has no policies; of several reasons the first counts. -/
inductive Translator.Refuses (translator : Translator) (intent : Intent) :
    TranslationError → Prop
  | unknownCurrency {currency : Currency}
      (named : intent.currency = some currency)
      (foreign : currency.IsForeign)
      (unrated : translator.rates.lookup currency = none) :
      Refuses translator intent (.unknownCurrency currency)
  | thresholdOverflow {amount rate : Decimal} {currency : Currency}
      (bounded : intent.threshold = some amount)
      (named : intent.currency = some currency)
      (foreign : currency.IsForeign)
      (rated : translator.rates.lookup currency = some rate)
      (overflows : amount.mul? rate = none) :
      Refuses translator intent (.thresholdOverflow amount currency)
  | emptyPool
      (converts : translator.rates.Converts intent)
      (everyChain : ∀ blockchain, blockchain ∈ intent.blacklist) :
      Refuses translator intent .emptyPool

theorem Currency.isForeign_iff
    {currency : Currency} :
    currency.IsForeign ↔ currency ≠ .canonical := by
  cases currency <;> simp [IsForeign, canonical]

theorem Intent.IsWellFormed.checkComplete
    {intent : Intent}
    (wellFormed : intent.IsWellFormed) :
    intent.checkComplete = .ok () := by
  have someUser : intent.users.isEmpty = false := by simpa using wellFormed.someUser
  have someSelection : (intent.blockchain.isNone && intent.profile.isNone) = false := by
    have oneSelection := wellFormed.oneSelection
    cases blockchain : intent.blockchain <;> cases profile : intent.profile <;> simp_all
  have someInterval : (intent.threshold.isSome && intent.interval.isNone) = false := by
    rw [wellFormed.bounded]
    cases intent.interval <;> rfl
  simp [Intent.checkComplete, someUser, someSelection, someInterval]

section Amount

variable {rates : RateTable} {amount : Decimal}

/-- What is in the canonical currency, or in none, is in range. -/
theorem RateTable.toCanonical_canonical
    {currency : Option Currency}
    (canonical : ∀ named ∈ currency, ¬ named.IsForeign) :
    rates.toCanonical amount currency = .ok amount.normalize := by
  cases currency with
  | none => rfl
  | some named =>
      have isCanonical : named = .canonical := by
        have notForeign := canonical named rfl
        rwa [Currency.isForeign_iff, not_not] at notForeign
      rw [toCanonical, if_pos isCanonical]

theorem RateTable.toCanonical_foreign
    {currency : Currency}
    (foreign : currency.IsForeign) :
    rates.toCanonical amount (some currency) =
      match rates.lookup currency with
      | none => .error (.unknownCurrency currency)
      | some rate =>
          match amount.mul? rate with
          | some converted => .ok converted.normalize
          | none => .error (.thresholdOverflow amount currency) := by
  rw [Currency.isForeign_iff] at foreign
  rewrite [toCanonical, if_neg foreign, rateFor?, if_neg foreign]
  rfl

end Amount

theorem WordSet.isEmpty_iff
    {Value : Type}
    [DecidableEq Value]
    [Vocabulary Value]
    {words : WordSet Value} :
    words.isEmpty = true ↔ ∀ value, value ∉ words := by
  rw [isEmpty, List.isEmpty_iff, List.eq_nil_iff_forall_not_mem]
  rfl

namespace Intent.IsWellFormed

variable {intent : Intent} {translator : Translator} {error : TranslationError}

theorem exists_threshold
    (wellFormed : intent.IsWellFormed)
    {currency : Currency}
    (named : intent.currency = some currency) :
    ∃ amount, intent.threshold = some amount := by
  apply Option.isSome_iff_exists.mp
  rw [wellFormed.bounded, Option.isSome_iff_ne_none]
  intro noInterval
  rw [(wellFormed.unbounded noInterval).1] at named
  cases named

/-- Where everything is converted, only an empty pool is left as a reason. -/
theorem refusal_of_converts
    (wellFormed : intent.IsWellFormed)
    (converts : translator.rates.Converts intent)
    (refuses : translator.Refuses intent error) :
    error = .emptyPool ∧ ∀ blockchain, blockchain ∈ intent.blacklist := by
  cases refuses with
  | unknownCurrency named foreign unrated =>
      obtain ⟨amount, bounded⟩ := wellFormed.exists_threshold named
      obtain ⟨rate, _, rated, -⟩ := converts amount bounded _ named foreign
      rw [unrated] at rated
      cases rated
  | thresholdOverflow bounded named foreign rated overflows =>
      obtain ⟨rate, converted, sameRate, fits⟩ := converts _ bounded _ named foreign
      rw [Option.some.inj (rated.symm.trans sameRate), fits] at overflows
      cases overflows
  | emptyPool _ everyChain => exact ⟨rfl, everyChain⟩

/-- A well-formed intent admits a blockchain unless it leaves out all of them. -/
theorem admittedPool_cases
    (wellFormed : intent.IsWellFormed) :
    (intent.admittedPool = .error .emptyPool ∧ ∀ blockchain, blockchain ∈ intent.blacklist) ∨
      (∃ pool, intent.admittedPool = .ok pool) ∧
        ¬ ∀ blockchain, blockchain ∈ intent.blacklist := by
  have notEverything (isEmpty : intent.blacklist = .empty) :
      ¬ ∀ blockchain, blockchain ∈ intent.blacklist := by
    rw [isEmpty]
    exact fun everyChain => WordSet.not_mem_empty (everyChain .bitcoin)
  rw [admittedPool]
  cases selected : intent.blockchain with
  | some blockchain =>
      have noProfile : intent.profile = none := by
        have oneSelection := wellFormed.oneSelection
        rwa [selected, Option.isSome_some, Bool.not_true, Option.isSome_eq_false_iff,
          Option.isNone_iff_eq_none] at oneSelection
      exact Or.inr ⟨⟨_, rfl⟩, notEverything (wellFormed.profileOnly noProfile).2.2⟩
  | none =>
      dsimp only
      -- The blacklist alone decides where nothing is listed as admitted.
      by_cases listed : intent.whitelist.isEmpty = true
      · rw [listed]
        by_cases noneLeftOut : intent.blacklist.isEmpty = true
        · refine Or.inr ⟨⟨.empty, by simp [noneLeftOut]⟩, fun everyChain => ?_⟩
          exact WordSet.isEmpty_iff.mp noneLeftOut .bitcoin (everyChain .bitcoin)
        · have complement : intent.blacklist.complement.isEmpty = true ↔
              ∀ blockchain, blockchain ∈ intent.blacklist := by
            simp [WordSet.isEmpty_iff]
          by_cases everyChain : ∀ blockchain, blockchain ∈ intent.blacklist
          · exact Or.inl ⟨by simp [noneLeftOut, complement.mpr everyChain], everyChain⟩
          · rw [← complement] at everyChain
            rw [← complement]
            exact Or.inr ⟨⟨_, by simp [noneLeftOut, everyChain]; rfl⟩, everyChain⟩
      · have blacklist : intent.blacklist = .empty := by
          refine wellFormed.oneList.resolve_left fun isEmpty => listed ?_
          rw [isEmpty]
          rfl
        exact Or.inr ⟨⟨intent.whitelist, by simp [listed]⟩, notEverything blacklist⟩

end Intent.IsWellFormed

namespace Translator

variable {intent : Intent} {translator : Translator} {error : TranslationError}

/-- Without a rate for its currency an intent is refused for that alone. -/
theorem refuses_of_unrated
    {amount : Decimal}
    {currency : Currency}
    (bounded : intent.threshold = some amount)
    (named : intent.currency = some currency)
    (foreign : currency.IsForeign)
    (unrated : translator.rates.lookup currency = none) :
    translator.Refuses intent error ↔ error = .unknownCurrency currency := by
  constructor
  · intro refuses
    cases refuses with
    | unknownCurrency otherNamed _ _ => rw [Option.some.inj (named.symm.trans otherNamed)]
    | thresholdOverflow _ otherNamed _ rated _ =>
        rw [← Option.some.inj (named.symm.trans otherNamed), unrated] at rated
        cases rated
    | emptyPool converts _ =>
        obtain ⟨_, _, rated, -⟩ := converts amount bounded currency named foreign
        rw [unrated] at rated
        cases rated
  · rintro rfl
    exact .unknownCurrency named foreign unrated

/-- With an amount too large to be converted an intent is refused for that alone. -/
theorem refuses_of_overflow
    {amount rate : Decimal}
    {currency : Currency}
    (bounded : intent.threshold = some amount)
    (named : intent.currency = some currency)
    (foreign : currency.IsForeign)
    (rated : translator.rates.lookup currency = some rate)
    (overflows : amount.mul? rate = none) :
    translator.Refuses intent error ↔ error = .thresholdOverflow amount currency := by
  constructor
  · intro refuses
    cases refuses with
    | unknownCurrency otherNamed _ unrated =>
        rw [← Option.some.inj (named.symm.trans otherNamed), rated] at unrated
        cases unrated
    | thresholdOverflow otherBounded otherNamed _ _ _ =>
        rw [Option.some.inj (named.symm.trans otherNamed),
          Option.some.inj (bounded.symm.trans otherBounded)]
    | emptyPool converts _ =>
        obtain ⟨otherRate, _, otherRated, fits⟩ := converts amount bounded currency named foreign
        rw [← Option.some.inj (rated.symm.trans otherRated), overflows] at fits
        cases fits
  · rintro rfl
    exact .thresholdOverflow bounded named foreign rated overflows

/-- An amount is converted, or it is not for the one reason that the intent is refused for. -/
theorem canonicalThreshold_cases
    (translator : Translator)
    (intent : Intent) :
    (∃ converted, translator.rates.canonicalThreshold intent = .ok converted) ∧
        translator.rates.Converts intent ∨
      ∃ refusal, translator.rates.canonicalThreshold intent = .error refusal ∧
        ∀ error, translator.Refuses intent error ↔ error = refusal := by
  rw [RateTable.canonicalThreshold]
  cases bounded : intent.threshold with
  | none => exact Or.inl ⟨⟨_, rfl⟩, by simp [RateTable.Converts, bounded]⟩
  | some amount =>
      dsimp only
      -- The rates are asked for a foreign currency only.
      by_cases canonical : ∀ named ∈ intent.currency, ¬ named.IsForeign
      · rw [RateTable.toCanonical_canonical canonical]
        exact Or.inl ⟨⟨_, rfl⟩, fun _ _ currency named foreign =>
          (canonical currency named foreign).elim⟩
      · simp only [not_forall, not_not] at canonical
        obtain ⟨currency, named, foreign⟩ := canonical
        rw [named, RateTable.toCanonical_foreign foreign]
        cases rated : translator.rates.lookup currency with
        | none =>
            exact Or.inr ⟨_, rfl, fun error => refuses_of_unrated bounded named foreign rated⟩
        | some rate =>
            dsimp only
            cases fits : amount.mul? rate with
            | none =>
                exact Or.inr ⟨_, rfl, fun error =>
                  refuses_of_overflow bounded named foreign rated fits⟩
            | some converted =>
                refine Or.inl ⟨⟨_, rfl⟩, ?_⟩
                intro other isAmount otherCurrency isCurrency _
                rw [← Option.some.inj (bounded.symm.trans isAmount),
                  ← Option.some.inj (named.symm.trans isCurrency)]
                exact ⟨rate, converted, rated, fits⟩

/-- A well-formed intent is refused for exactly the reasons listed. -/
theorem translate_eq_error_iff
    (wellFormed : intent.IsWellFormed) :
    translator.translate intent = .error error ↔ translator.Refuses intent error := by
  have opened : translator.translate intent =
      (translator.template intent).bind fun template =>
        .ok ((distinctUsers intent.users).map fun user => { template with user := user }) := by
    rw [translate, wellFormed.checkComplete]
    rfl
  rw [opened, template]
  rcases canonicalThreshold_cases translator intent with
    ⟨⟨threshold, converted⟩, converts⟩ | ⟨refusal, refused, onlyReason⟩
  · rw [converted]
    rcases wellFormed.admittedPool_cases with
      ⟨emptied, everyChain⟩ | ⟨⟨pool, admitted⟩, notEveryChain⟩
    · rw [emptied]
      constructor
      · rintro ⟨⟩
        exact .emptyPool converts everyChain
      · intro refuses
        rw [(wellFormed.refusal_of_converts converts refuses).1]
        rfl
    · rw [admitted]
      constructor
      · rintro ⟨⟩
      · intro refuses
        exact (notEveryChain (wellFormed.refusal_of_converts converts refuses).2).elim
  · rw [refused, onlyReason]
    exact ⟨fun | rfl => rfl, fun | rfl => rfl⟩

end Translator

/--
Whatever tokens are fed, what is released is well formed, and it has no policies exactly for the
reasons listed.
-/
theorem released_intent_translates
    {tokens : List String}
    {released : Intent}
    (finished : (({} : Parser).feedAll tokens).finish = .ok released) :
    released.IsWellFormed ∧
      ∀ (translator : Translator) (error : TranslationError),
        translator.translate released = .error error ↔ translator.Refuses released error := by
  rw [Parser.start_isReading.finish_feedAll, Parser.run_eq_ok_iff_sentence] at finished
  obtain ⟨sentence, -, compatible, rfl⟩ := finished
  have wellFormed := sentence.meaning_isWellFormed compatible
  exact ⟨wellFormed, fun translator error => Translator.translate_eq_error_iff wellFormed⟩

/-- Without rates, an amount in euros is refused for its currency, whatever is left out. -/
theorem released_intent_translates_without_rates :
    let tokens := ["for", "", "and", "select", "select", "the", "cheapest", "blockchain", "except",
      "bitcoin", "until", "the", "daily", "costs", "reach", "eur", "10"]
    let released : Intent :=
      { users := ["", "select"]
        profile := some .cheapest
        blacklist := .ofList [.bitcoin]
        interval := some .daily
        currency := some .eur
        threshold := Decimal.ofParts? false 10 0 }
    (({} : Parser).feedAll tokens).finish = .ok released ∧
      (Translator.mk .empty {}).translate released = .error (.unknownCurrency .eur) := by
  intro tokens released
  have finished : (({} : Parser).feedAll tokens).finish = .ok released := by decide +kernel
  refine ⟨finished, ((released_intent_translates finished).2 _ _).mpr ?_⟩
  exact .unknownCurrency rfl (Or.inr rfl) rfl

end IntentPolicy
