import IntentPolicy.Proofs.Intent.Agreement
import IntentPolicy.Proofs.Sentence.Outline
import IntentPolicy.Proofs.Sentence.Release

namespace IntentPolicy

/-!
# How lists are spelled

A list in a sentence counts as the set of what it names.  Two texts that choose the same words
and list the same things are both parsed, to intents that agree, or are both refused: in
whatever order the things are listed, however often, and with whatever separators.
-/

/-- Blockchains are admitted or left out by both, and are the same ones. -/
inductive PoolClause.Alike : PoolClause → PoolClause → Prop
  | everyChain : Alike .everyChain .everyChain
  | only {left right : Series Blockchain}
      (same : NameSame left.items right.items) :
      Alike (.only left) (.only right)
  | without {left right : Series Blockchain}
      (same : NameSame left.items right.items) :
      Alike (.without left) (.without right)

/-- The same blockchain or profile is selected, with the same filters and blockchains listed. -/
inductive SelectionClause.Alike : SelectionClause → SelectionClause → Prop
  | single (blockchain : Blockchain) : Alike (.single blockchain) (.single blockchain)
  | best (profile : Profile)
      {leftFilters rightFilters : Option (Series Filter)}
      {leftPool rightPool : PoolClause}
      (filters : NameSame (leftFilters.elim [] Series.items) (rightFilters.elim [] Series.items))
      (pool : leftPool.Alike rightPool) :
      Alike (.best profile leftFilters leftPool) (.best profile rightFilters rightPool)

/-- The two outlines choose the same words and list the same things. -/
structure Outline.Alike (left right : Outline) : Prop where
  users : NameSame left.users.items right.users.items
  timeframe : left.timeframe = right.timeframe
  selection : left.selection.Alike right.selection
  modifiers :
    NameSame (left.modifiers.elim [] Series.items) (right.modifiers.elim [] Series.items)
  cost : left.cost = right.cost

theorem PoolClause.Alike.symm
    {left right : PoolClause}
    (alike : left.Alike right) :
    right.Alike left := by
  cases alike with
  | everyChain => exact .everyChain
  | only same => exact .only same.symm
  | without same => exact .without same.symm

namespace SelectionClause.Alike

variable {left right : SelectionClause}

theorem symm
    (alike : left.Alike right) :
    right.Alike left := by
  cases alike with
  | single blockchain => exact .single blockchain
  | best profile filters pool => exact .best profile filters.symm pool.symm

theorem namedFilters
    (alike : left.Alike right) :
    NameSame left.namedFilters right.namedFilters := by
  cases alike with
  | single blockchain => exact fun filter => Iff.rfl
  | best profile filters pool => exact filters

/-- Whether filters conflict depends on which ones are named only. -/
theorem areCompatible
    (alike : left.Alike right)
    (compatible : AreCompatible left.namedFilters) :
    AreCompatible right.namedFilters := by
  rintro ⟨privateNamed, publicNamed⟩
  exact compatible
    ⟨(alike.namedFilters .privateChain).mpr privateNamed,
      (alike.namedFilters .publicChain).mpr publicNamed⟩

/-- Selections that list the same things mean the same. -/
theorem meaning_eq
    (alike : left.Alike right) :
    right.meaning = left.meaning := by
  cases alike with
  | single blockchain => rfl
  | @best profile leftFilters rightFilters leftPool rightPool filters pool =>
      have sameFilters :
          profile.recordedFilters (rightFilters.elim [] Series.items) =
            profile.recordedFilters (leftFilters.elim [] Series.items) := by
        apply WordSet.ext
        intro filter
        rw [Profile.mem_recordedFilters, Profile.mem_recordedFilters, filters filter]
      cases pool with
      | everyChain => simp only [meaning, sameFilters]
      | only same => simp only [meaning, sameFilters, WordSet.ofList_of_nameSame same]
      | without same => simp only [meaning, sameFilters, WordSet.ofList_of_nameSame same]

end SelectionClause.Alike

theorem Outline.Alike.symm
    {left right : Outline}
    (alike : left.Alike right) :
    right.Alike left where
  users := alike.users.symm
  timeframe := alike.timeframe.symm
  selection := alike.selection.symm
  modifiers := alike.modifiers.symm
  cost := alike.cost.symm

/-- Sentences that list the same things mean intents that differ in the order of users only. -/
theorem Sentence.meaning_of_alike
    {left right : Sentence}
    (alike : left.outline.Alike right.outline)
    (sameCost : left.cost = right.cost) :
    right.meaning = { left.meaning with users := right.users.items.eraseDups } := by
  have sameSelection : right.selection.meaning = left.selection.meaning :=
    alike.selection.meaning_eq
  have sameModifiers :
      (WordSet.ofList (left.modifiers.elim [] Series.items) : WordSet Modifier) =
        WordSet.ofList (right.modifiers.elim [] Series.items) :=
    WordSet.ofList_of_nameSame alike.modifiers
  have sameTimeframe : left.timeframe = right.timeframe := alike.timeframe
  simp only [meaning, sameSelection, sameModifiers, sameTimeframe, sameCost]
  cases right.cost <;> rfl

/-- Where one of two texts that list the same things is parsed, so is the other one. -/
theorem Outline.Alike.parses
    {left right : String}
    {leftOutline rightOutline : Outline}
    {leftIntent : Intent}
    (alike : leftOutline.Alike rightOutline)
    (leftOutlined : tokenize left = leftOutline.tokens)
    (rightOutlined : tokenize right = rightOutline.tokens)
    (parsed : parseSentence left = .ok leftIntent) :
    ∃ rightIntent, parseSentence right = .ok rightIntent ∧
      leftIntent.agrees rightIntent = true := by
  obtain ⟨sentence, rfl, compatible, rfl⟩ :=
    (parseSentence_of_outline leftOutlined leftIntent).mp parsed
  -- The other sentence lists what the other text lists; its bound on costs is the same.
  let other : Sentence :=
    { users := rightOutline.users
      timeframe := rightOutline.timeframe
      selection := rightOutline.selection
      modifiers := rightOutline.modifiers
      cost := sentence.cost }
  have otherOutline : other.outline = rightOutline := by
    have sameCost : sentence.cost.outline = rightOutline.cost := alike.cost
    rw [Sentence.outline, sameCost]
  have otherAlike : sentence.outline.Alike other.outline := by
    rw [otherOutline]
    exact alike
  have otherParsed : parseSentence right = .ok other.meaning :=
    (parseSentence_of_outline rightOutlined other.meaning).mpr
      ⟨other, otherOutline, otherAlike.selection.areCompatible compatible, rfl⟩
  refine ⟨other.meaning, otherParsed, ?_⟩
  rw [Sentence.meaning_of_alike otherAlike rfl]
  apply Intent.agrees_with_users
  intro user
  rw [sentence.meaning_selection.1, List.mem_eraseDups, List.mem_eraseDups]
  exact alike.users user

/--
Two texts whose tokens have the structure of a sentence, choose the same words and list the
same things are both parsed, to intents that agree, or are both refused.
-/
theorem spelling_of_lists_is_free
    {left right : String}
    {leftOutline rightOutline : Outline}
    (leftOutlined : tokenize left = leftOutline.tokens)
    (rightOutlined : tokenize right = rightOutline.tokens)
    (alike : leftOutline.Alike rightOutline) :
    (∃ leftIntent rightIntent,
        parseSentence left = .ok leftIntent ∧ parseSentence right = .ok rightIntent ∧
          leftIntent.agrees rightIntent = true) ∨
      ∃ leftError rightError,
        parseSentence left = .error leftError ∧ parseSentence right = .error rightError := by
  cases leftParsed : parseSentence left with
  | ok leftIntent =>
      obtain ⟨rightIntent, rightParsed, agree⟩ :=
        alike.parses leftOutlined rightOutlined leftParsed
      exact Or.inl ⟨leftIntent, rightIntent, rfl, rightParsed, agree⟩
  | error leftError =>
      cases rightParsed : parseSentence right with
      | error rightError => exact Or.inr ⟨leftError, rightError, rfl, rfl⟩
      | ok rightIntent =>
          obtain ⟨leftIntent, leftParsedToo, -⟩ :=
            alike.symm.parses rightOutlined leftOutlined rightParsed
          rw [leftParsed] at leftParsedToo
          cases leftParsedToo

/--
Two users and two filters, one of which the profile implies, in another order, repeated, with
other separators and in other letters.
-/
theorem spelling_of_lists_is_free_for_two_users :
    let left := "for Ann, BOB select the cheapest cheap and stable blockchain " ++
      "except eos and iota until the daily costs reach eur 10"
    let right := "FOR bob and ann,bob\tselect the cheapest stable,cheap,stable blockchain " ++
      "except iota,eos until the daily costs reach EUR 10"
    let leftOutline : Outline :=
      { users := ⟨"ann", [(.comma, "bob")]⟩
        timeframe := none
        selection := .best .cheapest (some ⟨.cheap, [(.conjunction, .stable)]⟩)
          (.without ⟨.eos, [(.conjunction, .iota)]⟩)
        modifiers := none
        cost := .bounded .daily (some .eur) "10" }
    let rightOutline : Outline :=
      { leftOutline with
        users := ⟨"bob", [(.conjunction, "ann"), (.comma, "bob")]⟩
        selection := .best .cheapest (some ⟨.stable, [(.comma, .cheap), (.comma, .stable)]⟩)
          (.without ⟨.iota, [(.comma, .eos)]⟩) }
    let intent : Intent :=
      { users := ["ann", "bob"]
        profile := some .cheapest
        filters := .ofList [.stable]
        blacklist := .ofList [.eos, .iota]
        interval := some .daily
        currency := some .eur
        threshold := Decimal.ofParts? false 10 0 }
    tokenize left = leftOutline.tokens ∧ tokenize right = rightOutline.tokens ∧
      leftOutline.Alike rightOutline ∧ parseSentence left = .ok intent ∧
      ∃ other, parseSentence right = .ok other ∧ intent.agrees other = true := by
  intro left right leftOutline rightOutline intent
  have leftOutlined : tokenize left = leftOutline.tokens := by decide +kernel
  have rightOutlined : tokenize right = rightOutline.tokens := by decide +kernel
  have alike : leftOutline.Alike rightOutline :=
    { users := by decide
      timeframe := rfl
      selection := .best .cheapest (by decide) (.without (by decide))
      modifiers := by decide
      cost := rfl }
  have leftParsed : parseSentence left = .ok intent := by decide +kernel
  refine ⟨leftOutlined, rightOutlined, alike, leftParsed, ?_⟩
  rcases spelling_of_lists_is_free leftOutlined rightOutlined alike with
    ⟨released, other, parsed, otherParsed, agree⟩ | ⟨_, _, refused, -⟩
  · obtain rfl := Except.ok.inj (leftParsed.symm.trans parsed)
    exact ⟨other, otherParsed, agree⟩
  · rw [leftParsed] at refused
    cases refused

end IntentPolicy
