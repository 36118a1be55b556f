import IntentPolicy.Proofs.Sentence.Derivation

namespace IntentPolicy

/-!
# What is recorded is what is meant

Reading a sentence token by token records its meaning: every list becomes the set of its
items, users keep the order of their first mention, and filters that conflict are refused.
-/

namespace WordSet

variable {Value : Type} [DecidableEq Value] [Vocabulary Value]

theorem mem_foldl_insert
    {items : List Value}
    {words : WordSet Value}
    {value : Value} :
    value ∈ items.foldl insert words ↔ value ∈ words ∨ value ∈ items := by
  induction items generalizing words with
  | nil => simp
  | cons item rest inductionHypothesis =>
      rw [List.foldl_cons, inductionHypothesis, mem_insert, List.mem_cons]
      constructor
      · rintro ((isItem | inWords) | inRest)
        · exact Or.inr (Or.inl isItem)
        · exact Or.inl inWords
        · exact Or.inr (Or.inr inRest)
      · rintro (inWords | isItem | inRest)
        · exact Or.inl (Or.inr inWords)
        · exact Or.inl (Or.inl isItem)
        · exact Or.inr inRest

theorem foldl_insert_empty
    (items : List Value) :
    items.foldl insert empty = ofList items := by
  apply ext
  intro value
  simp [mem_foldl_insert]

end WordSet

namespace Intent

/-- Naming users adds those that are new, in the order of their first mention. -/
theorem foldl_addUser
    (users : List String)
    (intent : Intent) :
    users.foldl addUser intent =
      { intent with
        users := intent.users ++ (users.filter fun user => user ∉ intent.users).eraseDups } := by
  induction users generalizing intent with
  | nil => simp
  | cons user rest inductionHypothesis =>
      rw [List.foldl_cons, inductionHypothesis]
      by_cases known : user ∈ intent.users
      · simp [addUser, known]
      · have added : intent.addUser user = { intent with users := intent.users ++ [user] } :=
          if_neg known
        have unseen :
            (rest.filter fun later => later ∉ intent.users ++ [user]) =
              (rest.filter fun later => later ∉ intent.users).filter fun later =>
                !later == user := by
          rw [List.filter_filter]
          apply List.filter_congr
          intro later _
          by_cases same : later = user <;> simp [same]
        simp only [added, unseen]
        rw [List.filter_cons_of_pos (by simp [known]), List.eraseDups_cons, List.append_assoc,
          List.singleton_append]

section Sets

variable {Value : Type} [DecidableEq Value] [Vocabulary Value]

/-- Words added one after the other to a set that an intent holds change that set only. -/
theorem foldl_insert
    (held : Intent → WordSet Value)
    (withHeld : Intent → WordSet Value → Intent)
    (sameIntent : ∀ intent, withHeld intent (held intent) = intent)
    (heldWords : ∀ intent words, held (withHeld intent words) = words)
    (overwrites : ∀ intent words others,
      withHeld (withHeld intent words) others = withHeld intent others)
    (items : List Value)
    (intent : Intent) :
    items.foldl (fun intent value => withHeld intent ((held intent).insert value)) intent =
      withHeld intent (items.foldl WordSet.insert (held intent)) := by
  induction items generalizing intent with
  | nil => exact (sameIntent intent).symm
  | cons item rest inductionHypothesis =>
      rw [List.foldl_cons, inductionHypothesis, heldWords, overwrites, List.foldl_cons]

end Sets

theorem foldl_addModifier
    (modifiers : List Modifier)
    (intent : Intent) :
    modifiers.foldl addModifier intent =
      { intent with modifiers := modifiers.foldl WordSet.insert intent.modifiers } :=
  foldl_insert (fun intent => intent.modifiers)
    (fun intent words => { intent with modifiers := words }) (fun _ => rfl) (fun _ _ => rfl)
    (fun _ _ _ => rfl) modifiers intent

theorem foldl_addToWhitelist
    (chains : List Blockchain)
    (intent : Intent) :
    chains.foldl addToWhitelist intent =
      { intent with whitelist := chains.foldl WordSet.insert intent.whitelist } :=
  foldl_insert (fun intent => intent.whitelist)
    (fun intent words => { intent with whitelist := words }) (fun _ => rfl) (fun _ _ => rfl)
    (fun _ _ _ => rfl) chains intent

theorem foldl_addToBlacklist
    (chains : List Blockchain)
    (intent : Intent) :
    chains.foldl addToBlacklist intent =
      { intent with blacklist := chains.foldl WordSet.insert intent.blacklist } :=
  foldl_insert (fun intent => intent.blacklist)
    (fun intent words => { intent with blacklist := words }) (fun _ => rfl) (fun _ _ => rfl)
    (fun _ _ _ => rfl) chains intent

end Intent

/-- The recorded filters are those that are named and not implied. -/
theorem Profile.mem_recordedFilters
    {profile : Profile}
    {named : List Filter}
    {filter : Filter} :
    filter ∈ profile.recordedFilters named ↔
      filter ∈ named ∧ filter ≠ profile.impliedFilter := by
  simp [recordedFilters]

/-- Filters that agree with more filters agree with fewer. -/
theorem AreCompatible.of_append
    {named more : List Filter}
    (compatible : AreCompatible (named ++ more)) :
    AreCompatible named := by
  rintro ⟨privateNamed, publicNamed⟩
  exact compatible
    ⟨List.mem_append_left more privateNamed, List.mem_append_left more publicNamed⟩

/-- A filter with an opposite is compatible with others unless they hold its opposite. -/
theorem areCompatible_append_singleton
    {named : List Filter}
    {filter : Filter}
    (compatible : AreCompatible named) :
    AreCompatible (named ++ [filter]) ↔ ∀ opposite ∈ filter.opposite?, opposite ∉ named := by
  simp only [AreCompatible] at compatible ⊢
  cases filter <;> simp [Filter.opposite?] <;> grind

/-- No filter with an opposite is implied by a profile. -/
theorem Profile.opposite_ne_impliedFilter
    {profile : Profile}
    {filter opposite : Filter}
    (opposed : filter.opposite? = some opposite) :
    opposite ≠ profile.impliedFilter := by
  cases filter <;> cases profile <;> simp_all [Filter.opposite?, impliedFilter] <;>
    (subst opposed; decide)

/-- The filter that a profile implies has no opposite. -/
theorem Profile.opposite?_impliedFilter
    (profile : Profile) :
    profile.impliedFilter.opposite? = none := by
  cases profile <;> rfl

/-- A filter that is implied adds nothing to those recorded. -/
theorem Profile.recordedFilters_append_implied
    (profile : Profile)
    (named : List Filter) :
    profile.recordedFilters (named ++ [profile.impliedFilter]) = profile.recordedFilters named := by
  apply WordSet.ext
  intro filter
  simp only [mem_recordedFilters, List.mem_append, List.mem_singleton]
  constructor
  · rintro ⟨inNamed | isImplied, notImplied⟩
    · exact ⟨inNamed, notImplied⟩
    · exact (notImplied isImplied).elim
  · rintro ⟨inNamed, notImplied⟩
    exact ⟨Or.inl inNamed, notImplied⟩

theorem Profile.recordedFilters_append
    {profile : Profile}
    {named : List Filter}
    {filter : Filter}
    (notImplied : filter ≠ profile.impliedFilter) :
    profile.recordedFilters (named ++ [filter]) = (profile.recordedFilters named).insert filter := by
  apply WordSet.ext
  intro other
  simp only [mem_recordedFilters, WordSet.mem_insert, List.mem_append, List.mem_singleton]
  constructor
  · rintro ⟨inNamed | isFilter, otherNotImplied⟩
    · exact Or.inr ⟨inNamed, otherNotImplied⟩
    · exact Or.inl isFilter
  · rintro (rfl | ⟨inNamed, otherNotImplied⟩)
    · exact ⟨Or.inr rfl, notImplied⟩
    · exact ⟨Or.inl inNamed, otherNotImplied⟩

/-- Adding a filter to those recorded records it too, unless it conflicts with one. -/
theorem Intent.addFilter?_eq
    {intent : Intent}
    {profile : Profile}
    {named : List Filter}
    {filter : Filter}
    (selected : intent.profile = some profile)
    (recordedNamed : intent.filters = profile.recordedFilters named)
    (compatible : AreCompatible named) :
    intent.addFilter? filter =
      if AreCompatible (named ++ [filter]) then
        some { intent with filters := profile.recordedFilters (named ++ [filter]) }
      else none := by
  simp only [areCompatible_append_singleton compatible]
  by_cases implied : profile.impliedFilter = filter
  · subst implied
    have unchanged : intent.addFilter? profile.impliedFilter = some intent := by
      simp [addFilter?, addFilter, selected, Except.toOption]
    rw [unchanged, profile.recordedFilters_append_implied, ← recordedNamed,
      profile.opposite?_impliedFilter]
    simp
  · rw [Profile.recordedFilters_append (Ne.symm implied), ← recordedNamed]
    have notImplied : intent.profile.map Profile.impliedFilter ≠ some filter := by
      simp [selected, implied]
    cases opposed : filter.opposite? with
    | none => simp [addFilter?, addFilter, notImplied, opposed, Except.toOption]
    | some opposite =>
        have conflict : opposite ∈ intent.filters ↔ opposite ∈ named := by
          rw [recordedNamed, Profile.mem_recordedFilters]
          exact and_iff_left (Profile.opposite_ne_impliedFilter opposed)
        by_cases conflicting : opposite ∈ named
        · simp [addFilter?, addFilter, notImplied, opposed, conflict, conflicting,
            Except.toOption]
        · simp [addFilter?, addFilter, notImplied, opposed, conflict, conflicting,
            Except.toOption]

/-- Adding filters one after the other records them all, unless two of them conflict. -/
theorem Intent.foldlM_addFilter?
    {intent recorded : Intent}
    {profile : Profile}
    {named : List Filter}
    (filters : List Filter)
    (selected : intent.profile = some profile)
    (recordedNamed : intent.filters = profile.recordedFilters named)
    (compatible : AreCompatible named) :
    filters.foldlM Intent.addFilter? intent = some recorded ↔
      AreCompatible (named ++ filters) ∧
        recorded = { intent with filters := profile.recordedFilters (named ++ filters) } := by
  -- The filters named so far are carried along: what is recorded depends on them only.
  induction filters generalizing intent named with
  | nil =>
      simp only [List.foldlM_nil, List.append_nil, compatible, true_and, ← recordedNamed]
      constructor
      · intro same
        exact (Option.some.inj same).symm
      · rintro rfl
        rfl
  | cons filter rest inductionHypothesis =>
      have regroup : named ++ filter :: rest = named ++ [filter] ++ rest := by simp
      rw [List.foldlM_cons, addFilter?_eq selected recordedNamed compatible, regroup]
      by_cases firstCompatible : AreCompatible (named ++ [filter])
      · simp only [firstCompatible, ↓reduceIte]
        exact inductionHypothesis (by exact selected) rfl firstCompatible
      · have conflicting : ¬ AreCompatible (named ++ [filter] ++ rest) :=
          fun allCompatible => firstCompatible allCompatible.of_append
        rw [if_neg firstCompatible]
        constructor
        · intro refused
          exact (Option.some_ne_none recorded refused.symm).elim
        · rintro ⟨allCompatible, _⟩
          exact (conflicting allCompatible).elim

/-- The admitted blockchains are recorded as their sets. -/
theorem PoolClause.record_eq
    (pool : PoolClause)
    {intent : Intent}
    (noWhitelist : intent.whitelist = .empty)
    (noBlacklist : intent.blacklist = .empty) :
    pool.record intent =
      { intent with
        whitelist := match pool with
          | .only chains => .ofList chains.items
          | _ => .empty
        blacklist := match pool with
          | .without chains => .ofList chains.items
          | _ => .empty } := by
  cases intent
  simp only at noWhitelist noBlacklist
  subst noWhitelist noBlacklist
  cases pool with
  | everyChain => rfl
  | only chains =>
      simp only [record, Intent.foldl_addToWhitelist, WordSet.foldl_insert_empty]
  | without chains =>
      simp only [record, Intent.foldl_addToBlacklist, WordSet.foldl_insert_empty]

/-- A selection is recorded on users and a timeframe, unless its filters conflict. -/
theorem SelectionClause.record?_eq_some_iff
    {selection : SelectionClause}
    {users : List String}
    {timeframe : Option Timeframe}
    {recorded : Intent} :
    selection.record? { users := users, timeframe := timeframe } = some recorded ↔
      AreCompatible selection.namedFilters ∧
        recorded = { selection.meaning with users := users, timeframe := timeframe } := by
  cases selection with
  | single blockchain =>
      simp only [record?, meaning, namedFilters, AreCompatible, Option.some.injEq]
      simp [eq_comm]
  | best profile filters pool =>
      have nothing : (WordSet.empty : WordSet Filter) = profile.recordedFilters [] := by
        apply WordSet.ext
        simp [Profile.mem_recordedFilters]
      have nothingConflicts : AreCompatible [] := by
        simp [AreCompatible]
      let chosen : Intent := { users := users, timeframe := timeframe, profile := some profile }
      have added {filtered : Intent} :
          (filters.elim [] Series.items).foldlM Intent.addFilter? chosen = some filtered ↔
            AreCompatible (filters.elim [] Series.items) ∧
              filtered = { chosen with
                filters := profile.recordedFilters (filters.elim [] Series.items) } :=
        Intent.foldlM_addFilter? _ rfl nothing nothingConflicts
      simp only [record?, Option.map_eq_some_iff]
      constructor
      · rintro ⟨filtered, addedHere, rfl⟩
        obtain ⟨compatible, rfl⟩ := added.mp addedHere
        exact ⟨compatible, pool.record_eq rfl rfl⟩
      · rintro ⟨compatible, rfl⟩
        exact ⟨_, added.mpr ⟨compatible, rfl⟩, pool.record_eq rfl rfl⟩

/-- A sentence is recorded as its meaning, unless its filters conflict. -/
theorem Sentence.record?_eq_some_iff
    {sentence : Sentence}
    {released : Intent} :
    sentence.record? = some released ↔
      AreCompatible sentence.selection.namedFilters ∧ released = sentence.meaning := by
  have namedUsers :
      sentence.users.items.foldl Intent.addUser {} =
        { users := sentence.users.items.eraseDups } := by
    simp [Intent.foldl_addUser]
  have recordedEnding :
      sentence.cost.record
          ((sentence.modifiers.elim [] Series.items).foldl Intent.addModifier
            { sentence.selection.meaning with
              users := sentence.users.items.eraseDups
              timeframe := sentence.timeframe }) =
        sentence.meaning := by
    have noModifiers : sentence.selection.meaning.modifiers = .empty := by
      cases sentence.selection <;> rfl
    rw [Intent.foldl_addModifier, noModifiers, WordSet.foldl_insert_empty]
    cases selection : sentence.selection <;> cases cost : sentence.cost <;>
      simp [meaning, selection, cost, CostClause.record, Intent.clearForDefault,
        SelectionClause.meaning]
  simp only [record?, namedUsers, Option.map_eq_some_iff, SelectionClause.record?_eq_some_iff]
  constructor
  · rintro ⟨selected, ⟨compatible, rfl⟩, rfl⟩
    exact ⟨compatible, recordedEnding⟩
  · rintro ⟨compatible, rfl⟩
    exact ⟨_, ⟨compatible, rfl⟩, recordedEnding⟩

end IntentPolicy
