import IntentPolicy.Proofs.Sentence.Acceptance

namespace IntentPolicy

/-!
# Sentences are what is accepted

Every position accepts what the grammar puts behind it.  The positions are taken from the
end of a sentence to its start, so each clause is met with everything behind it settled.
-/

/-- The intent with the bound on its costs recorded. -/
def CostClause.record (intent : Intent) : CostClause → Intent
  | .bounded interval currency threshold =>
      { intent with
        interval := some interval
        currency := currency.or intent.currency
        threshold := some threshold.amount }
  | .unbounded => intent.clearForDefault

/-- The intent with one more modifier. -/
def Intent.addModifier (intent : Intent) (modifier : Modifier) : Intent :=
  { intent with modifiers := intent.modifiers.insert modifier }

/-- The intent with one more admitted blockchain. -/
def Intent.addToWhitelist (intent : Intent) (blockchain : Blockchain) : Intent :=
  { intent with whitelist := intent.whitelist.insert blockchain }

/-- The intent with one more blockchain left out. -/
def Intent.addToBlacklist (intent : Intent) (blockchain : Blockchain) : Intent :=
  { intent with blacklist := intent.blacklist.insert blockchain }

/-- The intent with the admitted blockchains recorded. -/
def PoolClause.record (intent : Intent) : PoolClause → Intent
  | .everyChain => intent
  | .only chains => chains.items.foldl Intent.addToWhitelist intent
  | .without chains => chains.items.foldl Intent.addToBlacklist intent

/-- The intent with one more filter, unless it conflicts with another. -/
def Intent.addFilter? (intent : Intent) (filter : Filter) : Option Intent :=
  (intent.addFilter filter).toOption

/-- The intent with a selection recorded, unless its filters conflict. -/
def SelectionClause.record? (intent : Intent) : SelectionClause → Option Intent
  | .single blockchain => some { intent with blockchain := some blockchain }
  | .best profile filters pool =>
      ((filters.elim [] Series.items).foldlM Intent.addFilter?
        { intent with profile := some profile }).map pool.record

/-- What follows the selection: the modifiers, if there are any, and the costs. -/
def AcceptsEnding (intent : Intent) (tokens : List String) (released : Intent) : Prop :=
  ∃ (modifiers : Option (Series Modifier)) (cost : CostClause),
    tokens = (modifiers.elim [] fun modifiers => "with" :: modifiers.tokens wordOf) ++ cost.tokens ∧
      released =
        cost.record ((modifiers.elim [] Series.items).foldl Intent.addModifier intent)

/-- What follows the users: the timeframe, if there is one, and the selection. -/
def AcceptsSelection (intent : Intent) (tokens : List String) (released : Intent) : Prop :=
  ∃ (timeframe : Option Timeframe) (rest : List String),
    tokens = (timeframe.elim [] fun timeframe => ["in", "the", wordOf timeframe]) ++
        "select" :: rest ∧
      Accepts .selection { intent with timeframe := timeframe.or intent.timeframe } rest released

/-- The word of a value is looked up as that value. -/
theorem lookUp_wordOf
    {Value : Type}
    [Vocabulary Value]
    [DistinctWords Value]
    (kind : String)
    (value : Value) :
    lookUp kind (wordOf value) = .ok value := by
  simp only [lookUp, DistinctWords.ofWord?_wordOf]

namespace Intent

/-- Where a token is looked up, the word of a value is recorded as that value. -/
theorem record_wordOf
    {Value : Type}
    [Vocabulary Value]
    [DistinctWords Value]
    {intent : Intent}
    {position : Position}
    {kind : String}
    {add : Intent → Value → Intent}
    (looksUp : ∀ token, intent.record position token = (lookUp kind token).map (add intent))
    (value : Value) :
    intent.record position (wordOf value) = .ok (add intent value) := by
  rw [looksUp, lookUp_wordOf]
  rfl

/-- A token is recorded among the filters exactly as the filter that it names is added. -/
theorem record_filter_iff
    {intent recorded : Intent}
    {filter : Filter} :
    intent.record .filter (wordOf filter) = .ok recorded ↔
      intent.addFilter? filter = some recorded := by
  have recording : intent.record .filter (wordOf filter) = intent.addFilter filter := by
    unfold record
    simp only [DistinctWords.ofWord?_wordOf]
  rw [recording, addFilter?]
  cases intent.addFilter filter <;> simp [Except.toOption]

end Intent

/-- One of some words stands next, and leads to where it is accepted what follows. -/
def Leaves (words : List (String × Position)) (intent : Intent) (tokens : List String)
    (released : Intent) : Prop :=
  ∃ token next rest, (token, next) ∈ words ∧ tokens = token :: rest ∧
    Accepts next intent rest released

namespace Leaves

variable {words others : List (String × Position)}
  {next : Position}
  {intent released : Intent}
  {tokens : List String}

theorem append_iff :
    Leaves (words ++ others) intent tokens released ↔
      Leaves words intent tokens released ∨ Leaves others intent tokens released := by
  simp only [Leaves, List.mem_append]
  constructor
  · rintro ⟨token, next, rest, inWords | inOthers, shape, accepted⟩
    · exact Or.inl ⟨token, next, rest, inWords, shape, accepted⟩
    · exact Or.inr ⟨token, next, rest, inOthers, shape, accepted⟩
  · rintro (⟨token, next, rest, inWords, leaves⟩ | ⟨token, next, rest, inOthers, leaves⟩)
    · exact ⟨token, next, rest, Or.inl inWords, leaves⟩
    · exact ⟨token, next, rest, Or.inr inOthers, leaves⟩

theorem singleton_iff
    {word : String} :
    Leaves [(word, next)] intent tokens released ↔
      ∃ rest, tokens = word :: rest ∧ Accepts next intent rest released := by
  simp only [Leaves, List.mem_singleton, Prod.mk.injEq]
  constructor
  · rintro ⟨token, target, rest, ⟨rfl, rfl⟩, rfl, accepted⟩
    exact ⟨rest, rfl, accepted⟩
  · rintro ⟨rest, rfl, accepted⟩
    exact ⟨word, next, rest, ⟨rfl, rfl⟩, rfl, accepted⟩

/-- The first word stands next, or another one does. -/
theorem cons_iff
    {word : String} :
    Leaves ((word, next) :: words) intent tokens released ↔
      (∃ rest, tokens = word :: rest ∧ Accepts next intent rest released) ∨
        Leaves words intent tokens released := by
  rw [← singleton_iff, ← append_iff]
  rfl

/-- A separator stands next. -/
theorem separators_iff :
    Leaves (Position.separatorsTo next) intent tokens released ↔
      ∃ separator rest, tokens = Separator.token separator :: rest ∧
        Accepts next intent rest released := by
  simp only [Leaves, Position.mem_separatorsTo]
  constructor
  · rintro ⟨token, target, rest, ⟨⟨separator, rfl⟩, rfl⟩, rfl, accepted⟩
    exact ⟨separator, rest, rfl, accepted⟩
  · rintro ⟨separator, rest, rfl, accepted⟩
    exact ⟨_, next, rest, ⟨⟨separator, rfl⟩, rfl⟩, rfl, accepted⟩

end Leaves

namespace Accepts

variable {intent released : Intent}
  {tokens : List String}

/-- Where nothing is recorded, one of the words of the table stands next. -/
theorem leaves_iff
    {position : Position}
    (tabled : position.isTabled = true)
    (notAccepting : position.isAccepting = false)
    (unrecorded : ∀ token, intent.record position token = .ok intent) :
    Accepts position intent tokens released ↔
      Leaves position.transitions intent tokens released := by
  rw [tabled_iff tabled notAccepting]
  constructor
  · rintro ⟨token, next, rest, recorded, entry, shape, recordedHere, accepted⟩
    rw [unrecorded] at recordedHere
    obtain rfl := Except.ok.inj recordedHere
    exact ⟨token, next, rest, entry, shape, accepted⟩
  · rintro ⟨token, next, rest, entry, shape, accepted⟩
    exact ⟨token, next, rest, intent, entry, shape, unrecorded token, accepted⟩

/-- Where a word of a vocabulary is due, such a word stands and is recorded. -/
theorem word_iff
    {Value : Type}
    [Vocabulary Value]
    {position next : Position}
    {add : Intent → Value → Intent}
    (table : position.transitions = Position.wordsTo Value next)
    (tabled : position.isTabled = true)
    (notAccepting : position.isAccepting = false)
    (recording : ∀ value : Value,
      intent.record position (wordOf value) = .ok (add intent value)) :
    Accepts position intent tokens released ↔
      ∃ (value : Value) (rest : List String), tokens = wordOf value :: rest ∧
        Accepts next (add intent value) rest released := by
  rw [tabled_iff tabled notAccepting]
  simp only [table, Position.mem_wordsTo]
  constructor
  · rintro ⟨token, target, rest, recorded, ⟨⟨value, rfl⟩, rfl⟩, rfl, recordedHere, accepted⟩
    rw [recording] at recordedHere
    obtain rfl := Except.ok.inj recordedHere
    exact ⟨value, rest, rfl, accepted⟩
  · rintro ⟨value, rest, rfl, accepted⟩
    exact ⟨_, next, rest, _, ⟨⟨value, rfl⟩, rfl⟩, rfl, recording value, accepted⟩

/-! ## Series -/

section Series

variable {Item : Type}
  {written : Item → String}
  {add : Intent → Item → Option Intent}
  {atItem behindItem : Position}
  {Exit : Intent → List String → Intent → Prop}

/--
Behind an item of a series stand further items with their separators, and then whatever
leads out of the series.
-/
theorem behindItem_iff
    (itemRule : ∀ {intent tokens released},
      Accepts atItem intent tokens released ↔
        ∃ item rest recorded, tokens = written item :: rest ∧
          add intent item = some recorded ∧ Accepts behindItem recorded rest released)
    (behindRule : ∀ {intent tokens released},
      Accepts behindItem intent tokens released ↔
        (∃ separator rest, tokens = Separator.token separator :: rest ∧
          Accepts atItem intent rest released) ∨ Exit intent tokens released)
    :
    Accepts behindItem intent tokens released ↔
      ∃ others rest recorded, tokens = Series.otherTokens written others ++ rest ∧
        (others.map (·.2)).foldlM add intent = some recorded ∧ Exit recorded rest released := by
  constructor
  · intro accepted
    -- A separator and an item are taken at once, so the tokens shrink by two.
    induction size : tokens.length using Nat.strong_induction_on generalizing tokens intent with
    | h length inductionHypothesis =>
        rcases behindRule.mp accepted with ⟨separator, behind, rfl, itemAccepted⟩ | leaves
        · obtain ⟨item, rest, recorded, rfl, added, accepted⟩ := itemRule.mp itemAccepted
          have shorter : rest.length < length := by
            simp only [List.length_cons] at size
            omega
          obtain ⟨others, behindAll, final, rfl, addedAll, leaves⟩ :=
            inductionHypothesis rest.length shorter accepted rfl
          refine ⟨(separator, item) :: others, behindAll, final, ?_, ?_, leaves⟩
          · simp [Series.otherTokens]
          · simpa [added] using addedAll
        · exact ⟨[], tokens, intent, rfl, rfl, leaves⟩
  · rintro ⟨others, rest, recorded, rfl, addedAll, leaves⟩
    -- The other way goes along the items: each one needs its separator in front.
    induction others generalizing intent with
    | nil =>
        obtain rfl : intent = recorded := by simpa using addedAll
        exact behindRule.mpr (Or.inr leaves)
    | cons other others inductionHypothesis =>
        rcases other with ⟨separator, item⟩
        simp only [List.map_cons, List.foldlM_cons, Option.bind_eq_bind,
          Option.bind_eq_some_iff] at addedAll
        obtain ⟨first, added, addedOthers⟩ := addedAll
        refine behindRule.mpr (Or.inl ⟨separator, _, rfl, ?_⟩)
        exact itemRule.mpr ⟨item, _, first, rfl, added, inductionHypothesis addedOthers⟩

/-- Where an item of a series is due stands a series, and then whatever leads out of it. -/
theorem series_iff
    (itemRule : ∀ {intent tokens released},
      Accepts atItem intent tokens released ↔
        ∃ item rest recorded, tokens = written item :: rest ∧
          add intent item = some recorded ∧ Accepts behindItem recorded rest released)
    (behindRule : ∀ {intent tokens released},
      Accepts behindItem intent tokens released ↔
        (∃ separator rest, tokens = Separator.token separator :: rest ∧
          Accepts atItem intent rest released) ∨ Exit intent tokens released)
    :
    Accepts atItem intent tokens released ↔
      ∃ (series : Series Item) (rest : List String) (recorded : Intent),
        tokens = series.tokens written ++ rest ∧
          series.items.foldlM add intent = some recorded ∧ Exit recorded rest released := by
  rw [itemRule]
  constructor
  · rintro ⟨item, behind, first, rfl, added, accepted⟩
    obtain ⟨others, rest, recorded, rfl, addedOthers, leaves⟩ :=
      (behindItem_iff itemRule behindRule).mp accepted
    refine ⟨⟨item, others⟩, rest, recorded, rfl, ?_, leaves⟩
    simpa [Series.items, added] using addedOthers
  · rintro ⟨⟨item, others⟩, rest, recorded, rfl, addedAll, leaves⟩
    simp only [Series.items, List.foldlM_cons, Option.bind_eq_bind,
      Option.bind_eq_some_iff] at addedAll
    obtain ⟨first, added, addedOthers⟩ := addedAll
    exact ⟨item, _, first, rfl, added,
      (behindItem_iff itemRule behindRule).mpr ⟨others, rest, recorded, rfl, addedOthers, leaves⟩⟩

end Series

/-- Additions that cannot fail are made one after the other. -/
theorem foldlM_some
    {Item : Type}
    (add : Intent → Item → Intent)
    (intent recorded : Intent)
    (items : List Item) :
    items.foldlM (fun intent item => some (add intent item)) intent = some recorded ↔
      recorded = items.foldl add intent := by
  have pure : items.foldlM (fun intent item => some (add intent item)) intent =
      some (items.foldl add intent) :=
    List.foldlM_pure
  rw [pure, Option.some.injEq]
  exact eq_comm

/-- Where an item of a list is due that can always be added, its word stands. -/
theorem item_iff
    {Value : Type}
    [Vocabulary Value]
    {position next : Position}
    {add : Intent → Value → Intent}
    (table : position.transitions = Position.wordsTo Value next)
    (tabled : position.isTabled = true)
    (notAccepting : position.isAccepting = false)
    (recording : ∀ value : Value,
      intent.record position (wordOf value) = .ok (add intent value)) :
    Accepts position intent tokens released ↔
      ∃ (value : Value) (rest : List String) (recorded : Intent),
        tokens = wordOf value :: rest ∧ some (add intent value) = some recorded ∧
          Accepts next recorded rest released := by
  rw [word_iff table tabled notAccepting recording]
  constructor
  · rintro ⟨value, rest, rfl, accepted⟩
    exact ⟨value, rest, _, rfl, rfl, accepted⟩
  · rintro ⟨value, rest, recorded, rfl, added, accepted⟩
    obtain rfl := Option.some.inj added
    exact ⟨value, rest, rfl, accepted⟩

/-! ## Costs -/

/-- The word for the default policy clears what bounds the costs, and ends the sentence. -/
theorem defaultKeyword_iff :
    Accepts .defaultKeyword intent tokens released ↔
      tokens = ["default"] ∧ released = intent.clearForDefault := by
  rw [tabled_iff rfl rfl]
  simp only [Position.transitions, List.mem_singleton, Prod.mk.injEq]
  constructor
  · rintro ⟨token, next, rest, recorded, ⟨rfl, rfl⟩, rfl, recordedHere, accepted⟩
    obtain ⟨rfl, rfl⟩ := (end_iff rfl).mp accepted
    exact ⟨rfl, (Except.ok.inj recordedHere).symm⟩
  · rintro ⟨rfl, rfl⟩
    exact ⟨_, _, _, _, ⟨rfl, rfl⟩, rfl, rfl, (end_iff rfl).mpr ⟨rfl, rfl⟩⟩

/-- A threshold ends a sentence. -/
theorem threshold_iff :
    Accepts .threshold intent tokens released ↔
      ∃ threshold : ThresholdToken, tokens = [threshold.token] ∧
        released = { intent with threshold := some threshold.amount } := by
  cases tokens with
  | nil => simp [Accepts, Position.isAccepting]
  | cons token rest =>
      constructor
      · rintro ⟨next, recorded, advanced, accepted⟩
        obtain ⟨rfl, amount, reads, rfl⟩ := Parser.advance?_threshold.mp advanced
        obtain ⟨rfl, rfl⟩ := (end_iff rfl).mp accepted
        exact ⟨⟨token, amount, reads⟩, rfl, rfl⟩
      · rintro ⟨⟨number, amount, reads⟩, shape, rfl⟩
        obtain ⟨rfl, rfl⟩ := List.cons.inj shape
        exact ⟨_, _, Parser.advance?_threshold.mpr ⟨rfl, amount, reads, rfl⟩,
          (end_iff rfl).mpr ⟨rfl, rfl⟩⟩

/-- A threshold may follow the word of its currency, or stand without one. -/
theorem currency_iff :
    Accepts .currency intent tokens released ↔
      ∃ (currency : Option Currency) (threshold : ThresholdToken),
        tokens = (currency.elim [] fun currency => [wordOf currency]) ++ [threshold.token] ∧
          released = { intent with
            currency := currency.or intent.currency
            threshold := some threshold.amount } := by
  cases tokens with
  | nil => simp [Accepts, Position.isAccepting]
  | cons token rest =>
      constructor
      · rintro ⟨next, recorded, advanced, accepted⟩
        rcases Parser.advance?_currency.mp advanced with
          ⟨currency, rfl, rfl, rfl⟩ | ⟨rfl, amount, reads, rfl⟩
        · obtain ⟨threshold, rfl, rfl⟩ := threshold_iff.mp accepted
          exact ⟨some currency, threshold, rfl, rfl⟩
        · obtain ⟨rfl, rfl⟩ := (end_iff rfl).mp accepted
          exact ⟨none, ⟨token, amount, reads⟩, rfl, rfl⟩
      · rintro ⟨currency, ⟨number, amount, reads⟩, shape, rfl⟩
        cases currency with
        | none =>
            obtain ⟨rfl, rfl⟩ := List.cons.inj shape
            exact ⟨_, _, Parser.advance?_currency.mpr (Or.inr ⟨rfl, amount, reads, rfl⟩),
              (end_iff rfl).mpr ⟨rfl, rfl⟩⟩
        | some currency =>
            obtain ⟨rfl, rfl⟩ := List.cons.inj shape
            exact ⟨_, _, Parser.advance?_currency.mpr (Or.inl ⟨currency, rfl, rfl, rfl⟩),
              threshold_iff.mpr ⟨⟨number, amount, reads⟩, rfl, rfl⟩⟩

theorem interval_iff :
    Accepts .interval intent tokens released ↔
      ∃ (interval : Interval) (rest : List String), tokens = wordOf interval :: rest ∧
        Accepts .costs { intent with interval := some interval } rest released := by
  apply word_iff rfl rfl rfl
  intro value
  apply Intent.record_wordOf
  intro token
  rfl

/-- Behind the interval stand `costs reach` and the amount. -/
theorem costs_iff :
    Accepts .costs intent tokens released ↔
      ∃ rest, tokens = "costs" :: "reach" :: rest ∧ Accepts .currency intent rest released := by
  have reachRule {behind : List String} :
      Accepts .reach intent behind released ↔
        ∃ rest, behind = "reach" :: rest ∧ Accepts .currency intent rest released := by
    rw [leaves_iff rfl rfl fun _ => rfl]
    exact Leaves.singleton_iff
  rw [leaves_iff rfl rfl fun _ => rfl, Position.transitions, Leaves.singleton_iff]
  constructor
  · rintro ⟨_, rfl, atReach⟩
    obtain ⟨rest, rfl, atCurrency⟩ := reachRule.mp atReach
    exact ⟨rest, rfl, atCurrency⟩
  · rintro ⟨rest, rfl, atCurrency⟩
    exact ⟨_, rfl, reachRule.mpr ⟨rest, rfl, atCurrency⟩⟩

/-- Behind `until` stand an interval, an optional currency and a threshold. -/
theorem intervalArticle_iff :
    Accepts .intervalArticle intent tokens released ↔
      ∃ (interval : Interval) (currency : Option Currency) (threshold : ThresholdToken),
        "until" :: tokens = (CostClause.bounded interval currency threshold).tokens ∧
          released = (CostClause.bounded interval currency threshold).record intent := by
  rw [leaves_iff rfl rfl fun _ => rfl, Position.transitions, Leaves.singleton_iff]
  constructor
  · rintro ⟨_, rfl, atInterval⟩
    obtain ⟨interval, _, rfl, atCosts⟩ := interval_iff.mp atInterval
    obtain ⟨_, rfl, atCurrency⟩ := costs_iff.mp atCosts
    obtain ⟨currency, threshold, rfl, rfl⟩ := currency_iff.mp atCurrency
    exact ⟨interval, currency, threshold, rfl, rfl⟩
  · rintro ⟨interval, currency, threshold, shape, rfl⟩
    obtain ⟨-, rfl⟩ := List.cons.inj shape
    refine ⟨_, rfl, interval_iff.mpr ⟨interval, _, rfl, ?_⟩⟩
    refine costs_iff.mpr ⟨_, rfl, ?_⟩
    exact currency_iff.mpr ⟨currency, threshold, rfl, rfl⟩

/-- The words that open the costs lead to the costs. -/
theorem cost_iff :
    Leaves Position.costOpenings intent tokens released ↔
      ∃ cost : CostClause, tokens = cost.tokens ∧ released = cost.record intent := by
  rw [Position.costOpenings, Leaves.cons_iff, Leaves.singleton_iff]
  constructor
  · rintro (⟨rest, rfl, accepted⟩ | ⟨rest, rfl, accepted⟩)
    · obtain ⟨interval, currency, threshold, shape, rfl⟩ := intervalArticle_iff.mp accepted
      exact ⟨.bounded interval currency threshold, shape, rfl⟩
    · obtain ⟨rfl, rfl⟩ := defaultKeyword_iff.mp accepted
      exact ⟨.unbounded, rfl, rfl⟩
  · rintro ⟨cost, rfl, rfl⟩
    cases cost with
    | bounded interval currency threshold =>
        exact Or.inl ⟨_, rfl, intervalArticle_iff.mpr ⟨interval, currency, threshold, rfl, rfl⟩⟩
    | unbounded =>
        exact Or.inr ⟨_, rfl, defaultKeyword_iff.mpr ⟨rfl, rfl⟩⟩

/-! ## Modifiers -/

theorem modifier_iff :
    Accepts .modifier intent tokens released ↔
      ∃ (modifier : Modifier) (rest : List String) (recorded : Intent),
        tokens = wordOf modifier :: rest ∧ some (intent.addModifier modifier) = some recorded ∧
          Accepts .afterModifier recorded rest released := by
  apply item_iff rfl rfl rfl
  intro value
  apply Intent.record_wordOf
  intro token
  rfl

/-- Behind a modifier stands another one, or the costs. -/
theorem afterModifier_iff :
    Accepts .afterModifier intent tokens released ↔
      (∃ separator rest, tokens = Separator.token separator :: rest ∧
        Accepts .modifier intent rest released) ∨
      Leaves Position.costOpenings intent tokens released := by
  rw [← Leaves.separators_iff, ← Leaves.append_iff]
  exact leaves_iff rfl rfl fun _ => rfl

/-- The modifiers, if there are any, and the costs close a sentence. -/
theorem ending_iff :
    Leaves (("with", .modifier) :: Position.costOpenings) intent tokens released ↔
      AcceptsEnding intent tokens released := by
  simp only [Leaves.cons_iff, series_iff modifier_iff afterModifier_iff, foldlM_some, cost_iff]
  constructor
  · rintro (⟨_, rfl, modifiers, _, _, rfl, rfl, cost, rfl, rfl⟩ | ⟨cost, rfl, rfl⟩)
    · exact ⟨some modifiers, cost, rfl, rfl⟩
    · exact ⟨none, cost, rfl, rfl⟩
  · rintro ⟨modifiers, cost, rfl, rfl⟩
    cases modifiers with
    | none => exact Or.inr ⟨cost, rfl, rfl⟩
    | some modifiers =>
        exact Or.inl ⟨_, rfl, modifiers, cost.tokens, _, rfl, rfl, cost, rfl, rfl⟩

/-! ## Selections -/

/-- Behind one blockchain stands the ending of the sentence. -/
theorem afterBlockchain_iff :
    Accepts .afterBlockchain intent tokens released ↔ AcceptsEnding intent tokens released :=
  (leaves_iff rfl rfl fun _ => rfl).trans ending_iff

theorem whitelist_iff :
    Accepts .whitelist intent tokens released ↔
      ∃ (blockchain : Blockchain) (rest : List String) (recorded : Intent),
        tokens = wordOf blockchain :: rest ∧
          some (intent.addToWhitelist blockchain) = some recorded ∧
          Accepts .afterWhitelist recorded rest released := by
  apply item_iff rfl rfl rfl
  intro value
  apply Intent.record_wordOf
  intro token
  rfl

theorem blacklist_iff :
    Accepts .blacklist intent tokens released ↔
      ∃ (blockchain : Blockchain) (rest : List String) (recorded : Intent),
        tokens = wordOf blockchain :: rest ∧
          some (intent.addToBlacklist blockchain) = some recorded ∧
          Accepts .afterBlacklist recorded rest released := by
  apply item_iff rfl rfl rfl
  intro value
  apply Intent.record_wordOf
  intro token
  rfl

/-- Behind an admitted blockchain stands another one, or the ending of the sentence. -/
theorem afterWhitelist_iff :
    Accepts .afterWhitelist intent tokens released ↔
      (∃ separator rest, tokens = Separator.token separator :: rest ∧
        Accepts .whitelist intent rest released) ∨ AcceptsEnding intent tokens released := by
  rw [← Leaves.separators_iff, ← ending_iff, ← Leaves.append_iff]
  exact leaves_iff rfl rfl fun _ => rfl

theorem afterBlacklist_iff :
    Accepts .afterBlacklist intent tokens released ↔
      (∃ separator rest, tokens = Separator.token separator :: rest ∧
        Accepts .blacklist intent rest released) ∨ AcceptsEnding intent tokens released := by
  rw [← Leaves.separators_iff, ← ending_iff, ← Leaves.append_iff]
  exact leaves_iff rfl rfl fun _ => rfl

/-- Behind a profile and its filters stand the admitted blockchains and the ending. -/
theorem afterProfile_iff :
    Accepts .afterProfile intent tokens released ↔
      ∃ (pool : PoolClause) (rest : List String), tokens = pool.tokens ++ rest ∧
        AcceptsEnding (pool.record intent) rest released := by
  rw [leaves_iff rfl rfl fun _ => rfl, Position.transitions, Leaves.cons_iff, Leaves.cons_iff,
    ending_iff]
  simp only [series_iff whitelist_iff afterWhitelist_iff,
    series_iff blacklist_iff afterBlacklist_iff, foldlM_some]
  constructor
  · rintro (⟨_, rfl, chains, rest, _, rfl, rfl, ending⟩ | ⟨_, rfl, chains, rest, _, rfl, rfl, ending⟩ |
      ending)
    · exact ⟨.only chains, rest, rfl, ending⟩
    · exact ⟨.without chains, rest, rfl, ending⟩
    · exact ⟨.everyChain, tokens, rfl, ending⟩
  · rintro ⟨pool, rest, rfl, ending⟩
    cases pool with
    | everyChain => exact Or.inr (Or.inr ending)
    | only chains => exact Or.inl ⟨_, rfl, chains, rest, _, rfl, rfl, ending⟩
    | without chains => exact Or.inr (Or.inl ⟨_, rfl, chains, rest, _, rfl, rfl, ending⟩)

/-- Where a filter is due, its word stands, and does not conflict with another one. -/
theorem filter_iff :
    Accepts .filter intent tokens released ↔
      ∃ (filter : Filter) (rest : List String) (recorded : Intent),
        tokens = wordOf filter :: rest ∧ intent.addFilter? filter = some recorded ∧
          Accepts .afterFilter recorded rest released := by
  rw [tabled_iff rfl rfl]
  simp only [Position.transitions, Position.mem_wordsTo]
  constructor
  · rintro ⟨_, _, rest, recorded, ⟨⟨filter, rfl⟩, rfl⟩, rfl, recordedHere, accepted⟩
    exact ⟨filter, rest, recorded, rfl, Intent.record_filter_iff.mp recordedHere, accepted⟩
  · rintro ⟨filter, rest, recorded, rfl, added, accepted⟩
    exact ⟨_, _, rest, recorded, ⟨⟨filter, rfl⟩, rfl⟩, rfl, Intent.record_filter_iff.mpr added,
      accepted⟩

/-- Behind a filter stands another one, or the word `blockchain`. -/
theorem afterFilter_iff :
    Accepts .afterFilter intent tokens released ↔
      (∃ separator rest, tokens = Separator.token separator :: rest ∧
        Accepts .filter intent rest released) ∨
      ∃ rest, tokens = "blockchain" :: rest ∧ Accepts .afterProfile intent rest released := by
  rw [← Leaves.separators_iff, ← Leaves.singleton_iff, ← Leaves.append_iff]
  exact leaves_iff rfl rfl fun _ => rfl

/-- Behind a profile stands a filter, or the word `blockchain`. -/
theorem profileFilters_iff_filter :
    Accepts .profileFilters intent tokens released ↔
      Accepts .filter intent tokens released ∨
        ∃ rest, tokens = "blockchain" :: rest ∧ Accepts .afterProfile intent rest released := by
  rw [tabled_iff rfl rfl, tabled_iff rfl rfl]
  simp only [Position.transitions, List.mem_append, List.mem_singleton, Prod.mk.injEq]
  constructor
  · rintro ⟨token, next, rest, recorded, inFilters | ⟨rfl, rfl⟩, rfl, recordedHere, accepted⟩
    · exact Or.inl ⟨token, next, rest, recorded, inFilters, rfl, recordedHere, accepted⟩
    · obtain rfl := Except.ok.inj recordedHere
      exact Or.inr ⟨rest, rfl, accepted⟩
  · rintro (⟨token, next, rest, recorded, inFilters, rfl, recordedHere, accepted⟩ |
      ⟨rest, rfl, accepted⟩)
    · exact ⟨token, next, rest, recorded, Or.inl inFilters, rfl, recordedHere, accepted⟩
    · exact ⟨_, _, rest, intent, Or.inr ⟨rfl, rfl⟩, rfl, rfl, accepted⟩

/-- Behind a profile stand its filters, if there are any, and the word `blockchain`. -/
theorem profileFilters_iff :
    Accepts .profileFilters intent tokens released ↔
      ∃ (filters : Option (Series Filter)) (rest : List String) (recorded : Intent),
        tokens = (filters.elim [] (·.tokens wordOf)) ++ "blockchain" :: rest ∧
          (filters.elim [] Series.items).foldlM Intent.addFilter? intent = some recorded ∧
          Accepts .afterProfile recorded rest released := by
  rw [profileFilters_iff_filter]
  simp only [series_iff filter_iff afterFilter_iff]
  constructor
  · rintro (⟨filters, _, recorded, rfl, added, rest, rfl, accepted⟩ | ⟨rest, rfl, accepted⟩)
    · exact ⟨some filters, rest, recorded, rfl, added, accepted⟩
    · exact ⟨none, rest, intent, rfl, rfl, accepted⟩
  · rintro ⟨filters, rest, recorded, rfl, added, accepted⟩
    cases filters with
    | none =>
        obtain rfl : intent = recorded := by simpa using added
        exact Or.inr ⟨rest, rfl, accepted⟩
    | some filters =>
        exact Or.inl ⟨filters, _, recorded, rfl, added, rest, rfl, accepted⟩

theorem profile_iff :
    Accepts .profile intent tokens released ↔
      ∃ (profile : Profile) (rest : List String), tokens = wordOf profile :: rest ∧
        Accepts .profileFilters { intent with profile := some profile } rest released := by
  apply word_iff rfl rfl rfl
  intro value
  apply Intent.record_wordOf
  intro token
  rfl

/-- Behind `select` stands the word of a blockchain, or `the` and a profile. -/
theorem selection_iff_choice :
    Accepts .selection intent tokens released ↔
      (∃ (blockchain : Blockchain) (rest : List String), tokens = wordOf blockchain :: rest ∧
        AcceptsEnding { intent with blockchain := some blockchain } rest released) ∨
      ∃ rest, tokens = "the" :: rest ∧ Accepts .profile intent rest released := by
  have recording :
      ∀ blockchain : Blockchain, intent.record .selection (wordOf blockchain) =
        .ok { intent with blockchain := some blockchain } := by
    intro blockchain
    unfold Intent.record
    simp only [DistinctWords.ofWord?_wordOf]
  rw [tabled_iff rfl rfl]
  simp only [Position.transitions, List.mem_append, List.mem_singleton, Prod.mk.injEq,
    Position.mem_wordsTo, ← afterBlockchain_iff]
  constructor
  · rintro ⟨_, _, rest, recorded, ⟨⟨blockchain, rfl⟩, rfl⟩ | ⟨rfl, rfl⟩, rfl, recordedHere,
      accepted⟩
    · rw [recording] at recordedHere
      obtain rfl := Except.ok.inj recordedHere
      exact Or.inl ⟨blockchain, rest, rfl, accepted⟩
    · obtain rfl := Except.ok.inj recordedHere
      exact Or.inr ⟨rest, rfl, accepted⟩
  · rintro (⟨blockchain, rest, rfl, accepted⟩ | ⟨rest, rfl, accepted⟩)
    · exact ⟨_, _, rest, _, Or.inl ⟨⟨blockchain, rfl⟩, rfl⟩, rfl, recording blockchain, accepted⟩
    · exact ⟨_, _, rest, intent, Or.inr ⟨rfl, rfl⟩, rfl, rfl, accepted⟩

/-- Behind `select` stand a selection and the ending of the sentence. -/
theorem selection_iff :
    Accepts .selection intent tokens released ↔
      ∃ (selection : SelectionClause) (rest : List String) (recorded : Intent),
        tokens = selection.tokens ++ rest ∧ selection.record? intent = some recorded ∧
          AcceptsEnding recorded rest released := by
  rw [selection_iff_choice]
  simp only [profile_iff, profileFilters_iff, afterProfile_iff]
  constructor
  · rintro (⟨blockchain, rest, rfl, ending⟩ |
      ⟨_, rfl, profile, _, rfl, filters, _, recorded, rfl, added, pool, rest, rfl, ending⟩)
    · exact ⟨.single blockchain, rest, _, rfl, rfl, ending⟩
    · refine ⟨.best profile filters pool, rest, pool.record recorded, ?_, ?_, ending⟩
      · simp [SelectionClause.tokens]
      · simp [SelectionClause.record?, added]
  · rintro ⟨selection, rest, final, rfl, recordedAll, ending⟩
    cases selection with
    | single blockchain =>
        obtain rfl := Option.some.inj recordedAll
        exact Or.inl ⟨blockchain, rest, rfl, ending⟩
    | best profile filters pool =>
        obtain ⟨recorded, added, rfl⟩ := Option.map_eq_some_iff.mp recordedAll
        refine Or.inr ⟨_, rfl, profile, _, rfl, filters, _, recorded, ?_, added, pool, rest, rfl,
          ending⟩
        simp

/-! ## Users -/

/-- Where a user is due, any token stands. -/
theorem user_iff :
    Accepts .user intent tokens released ↔
      ∃ (user : String) (rest : List String) (recorded : Intent),
        tokens = id user :: rest ∧ some (intent.addUser user) = some recorded ∧
          Accepts .afterUser recorded rest released := by
  cases tokens with
  | nil => simp [Accepts, Position.isAccepting]
  | cons token rest =>
      constructor
      · rintro ⟨next, recorded, advanced, accepted⟩
        obtain ⟨rfl, rfl⟩ := Parser.advance?_user.mp advanced
        exact ⟨token, rest, _, rfl, rfl, accepted⟩
      · rintro ⟨user, behind, recorded, shape, added, accepted⟩
        obtain ⟨rfl, rfl⟩ := List.cons.inj shape
        obtain rfl := Option.some.inj added
        exact ⟨_, _, Parser.advance?_user.mpr ⟨rfl, rfl⟩, accepted⟩

/-- Where a timeframe is due, its word and `select` stand. -/
theorem timeframe_iff :
    Accepts .timeframe intent tokens released ↔
      ∃ (timeframe : Timeframe) (rest : List String),
        tokens = wordOf timeframe :: "select" :: rest ∧
          Accepts .selection { intent with timeframe := some timeframe } rest released := by
  have wordRule :
      Accepts .timeframe intent tokens released ↔
        ∃ (timeframe : Timeframe) (rest : List String), tokens = wordOf timeframe :: rest ∧
          Accepts .select { intent with timeframe := some timeframe } rest released := by
    apply word_iff rfl rfl rfl
    intro value
    apply Intent.record_wordOf
    intro token
    rfl
  have selectRule {intent : Intent} {behind : List String} :
      Accepts .select intent behind released ↔
        ∃ rest, behind = "select" :: rest ∧ Accepts .selection intent rest released := by
    rw [leaves_iff rfl rfl fun _ => rfl]
    exact Leaves.singleton_iff
  simp only [wordRule, selectRule]
  constructor
  · rintro ⟨timeframe, _, rfl, rest, rfl, accepted⟩
    exact ⟨timeframe, rest, rfl, accepted⟩
  · rintro ⟨timeframe, rest, rfl, accepted⟩
    exact ⟨timeframe, _, rfl, rest, rfl, accepted⟩

/-- Behind a user stands another one, or what follows the users. -/
theorem afterUser_iff :
    Accepts .afterUser intent tokens released ↔
      (∃ separator rest, tokens = Separator.token separator :: rest ∧
        Accepts .user intent rest released) ∨ AcceptsSelection intent tokens released := by
  have articleRule {behind : List String} :
      Accepts .timeframeArticle intent behind released ↔
        ∃ rest, behind = "the" :: rest ∧ Accepts .timeframe intent rest released := by
    rw [leaves_iff rfl rfl fun _ => rfl]
    exact Leaves.singleton_iff
  have behindUsers :
      Leaves [("in", .timeframeArticle), ("select", .selection)] intent tokens released ↔
        AcceptsSelection intent tokens released := by
    rw [Leaves.cons_iff, Leaves.singleton_iff]
    simp only [articleRule, timeframe_iff]
    constructor
    · rintro (⟨_, rfl, _, rfl, timeframe, rest, rfl, accepted⟩ | ⟨rest, rfl, accepted⟩)
      · exact ⟨some timeframe, rest, rfl, accepted⟩
      · exact ⟨none, rest, rfl, accepted⟩
    · rintro ⟨timeframe, rest, rfl, accepted⟩
      cases timeframe with
      | none => exact Or.inr ⟨rest, rfl, accepted⟩
      | some timeframe => exact Or.inl ⟨_, rfl, _, rfl, timeframe, rest, rfl, accepted⟩
  rw [← Leaves.separators_iff, ← behindUsers, ← Leaves.append_iff]
  exact leaves_iff rfl rfl fun _ => rfl

end Accepts

/-- The intent that reading a sentence records, unless its filters conflict. -/
def Sentence.record? (sentence : Sentence) : Option Intent :=
  let named := sentence.users.items.foldl Intent.addUser {}
  (sentence.selection.record? { named with timeframe := sentence.timeframe }).map fun selected =>
    sentence.cost.record
      ((sentence.modifiers.elim [] Series.items).foldl Intent.addModifier selected)

/-- Naming users changes no timeframe. -/
theorem foldl_addUser_timeframe
    (users : List String)
    (intent : Intent) :
    (users.foldl Intent.addUser intent).timeframe = intent.timeframe := by
  induction users generalizing intent with
  | nil => rfl
  | cons user rest inductionHypothesis =>
      rw [List.foldl_cons, inductionHypothesis, Intent.addUser]
      split <;> rfl

/-- What the parser accepts is a sentence whose filters do not conflict. -/
theorem Accepts.start_iff
    {tokens : List String}
    {released : Intent} :
    Accepts .start {} tokens released ↔
      ∃ sentence : Sentence, tokens = sentence.tokens ∧ sentence.record? = some released := by
  rw [leaves_iff rfl rfl fun _ => rfl, Position.transitions, Leaves.singleton_iff]
  simp only [series_iff user_iff afterUser_iff, foldlM_some, AcceptsSelection, selection_iff]
  constructor
  · rintro ⟨_, rfl, users, _, _, rfl, rfl, timeframe, _, rfl, selection, _, selected, rfl,
      recordedSelection, modifiers, cost, rfl, rfl⟩
    refine ⟨⟨users, timeframe, selection, modifiers, cost⟩, ?_, ?_⟩
    · simp [Sentence.tokens]
    · rw [foldl_addUser_timeframe] at recordedSelection
      simp only [Option.or_none] at recordedSelection
      simp only [Sentence.record?, recordedSelection, Option.map_some]
  · rintro ⟨sentence, rfl, recordedAll⟩
    obtain ⟨selected, recordedSelection, rfl⟩ := Option.map_eq_some_iff.mp recordedAll
    refine ⟨_, ?_, sentence.users, _, _, rfl, rfl, sentence.timeframe, _, rfl, sentence.selection,
      _, selected, rfl, ?_, sentence.modifiers, sentence.cost, rfl, rfl⟩
    · simp [Sentence.tokens]
    · rw [foldl_addUser_timeframe]
      simpa only [Option.or_none] using recordedSelection

end IntentPolicy
