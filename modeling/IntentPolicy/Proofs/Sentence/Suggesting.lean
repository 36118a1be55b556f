import IntentPolicy.Proofs.Sentence.Feeding
import IntentPolicy.Proofs.Sentence.Meaning
import IntentPolicy.Sentence.Suggestion

namespace IntentPolicy

/-!
# Which suggestions lead on

A sentence that fails is answered with the words of the table at which it failed.  The table
does not know what has been recorded, so one of its words may be refused: a private or public
blockchain beside the other.
-/

/-- The word is that of a filter whose opposite has been recorded. -/
def Intent.Conflicts (intent : Intent) (word : String) : Prop :=
  ∃ filter opposite, word = wordOf filter ∧ Filter.opposite? filter = some opposite ∧
    opposite ∈ intent.filters

namespace Intent

variable {intent : Intent} {word : String} {position next : Position} {filter : Filter}

/-- Only at a filter words are expected that can conflict. -/
theorem Conflicts.position_eq
    (conflicts : intent.Conflicts word)
    (entry : (word, next) ∈ position.transitions) :
    position = .profileFilters ∨ position = .filter := by
  obtain ⟨filter, opposite, rfl, opposed, -⟩ := conflicts
  have elsewhere : ∀ chain ∈ [Filter.privateChain, .publicChain],
      wordOf chain ∈ position.transitions.map (·.1) →
        position = .profileFilters ∨ position = .filter := by
    cases position <;> decide
  refine elsewhere filter ?_ (List.mem_map.mpr ⟨_, entry, rfl⟩)
  cases filter with
  | privateChain | publicChain => decide
  | _ => cases opposed

theorem addFilter_ok_iff :
    (∃ recorded, intent.addFilter filter = .ok recorded) ↔
      ∀ opposite ∈ filter.opposite?, opposite ∉ intent.filters := by
  unfold addFilter
  split
  · next implied =>
      obtain ⟨profile, -, rfl⟩ := Option.map_eq_some_iff.mp implied
      simp [profile.opposite?_impliedFilter]
  · cases filter.opposite? with
    | none => simp
    | some opposite => by_cases recorded : opposite ∈ intent.filters <;> simp [recorded]

theorem record_filter_ok_iff :
    (∃ recorded, intent.record .filter (wordOf filter) = .ok recorded) ↔
      ¬ intent.Conflicts (wordOf filter) := by
  have recording : intent.record .filter (wordOf filter) = intent.addFilter filter := by
    unfold record
    simp only [DistinctWords.ofWord?_wordOf]
  rw [recording, addFilter_ok_iff]
  constructor
  · rintro free ⟨other, opposite, sameWord, opposed, recorded⟩
    have sameFilter : filter = other :=
      Option.some.inj (DistinctWords.ofWord?_wordOf filter ▸ sameWord ▸
        DistinctWords.ofWord?_wordOf other)
    exact free opposite (sameFilter ▸ opposed) recorded
  · intro noConflict opposite opposed recorded
    exact noConflict ⟨filter, opposite, rfl, opposed, recorded⟩

/-- Where words are looked up, that of a value is recorded. -/
theorem record_ok_of_lookUp
    {Value : Type}
    [Vocabulary Value]
    [DistinctWords Value]
    {kind : String}
    {value : Value}
    {recordedAs : Value → Intent}
    (looksUp : intent.record position (wordOf value) =
      (lookUp kind (wordOf value)).map recordedAs) :
    ∃ recorded, intent.record position (wordOf value) = .ok recorded := by
  rw [looksUp, lookUp_wordOf]
  exact ⟨_, rfl⟩

/-- Every other word of a table is recorded, whatever has been recorded before. -/
theorem record_ok_of_entry
    (entry : (word, next) ∈ position.transitions)
    (notFilters : position ≠ .profileFilters)
    (notFilter : position ≠ .filter) :
    ∃ recorded, intent.record position word = .ok recorded := by
  cases position with
  | profileFilters => exact (notFilters rfl).elim
  | filter => exact (notFilter rfl).elim
  | selection =>
      unfold record
      cases (Vocabulary.ofWord? word : Option Blockchain) with
      | none => exact ⟨_, rfl⟩
      | some blockchain => exact ⟨_, rfl⟩
  | timeframe | profile | whitelist | blacklist | modifier | interval =>
      obtain ⟨⟨value, rfl⟩, -⟩ := Position.mem_wordsTo.mp entry
      exact record_ok_of_lookUp rfl
  | currency =>
      obtain ⟨⟨currency, rfl⟩, -⟩ := Position.mem_wordsTo.mp entry
      unfold record
      simp only [Parser.currency_ofText?_wordOf]
      exact ⟨_, rfl⟩
  | user | threshold | costBounded | defaultPolicy | error => cases entry
  | _ => exact ⟨_, rfl⟩

/-- A word of a table is recorded there unless it conflicts with what has been recorded. -/
theorem record_ok_iff_of_entry
    (entry : (word, next) ∈ position.transitions) :
    (∃ recorded, intent.record position word = .ok recorded) ↔ ¬ intent.Conflicts word := by
  -- Both tables of filters record alike; the words of every other table cannot conflict.
  by_cases filters : position = .profileFilters ∨ position = .filter
  · have sameRecording : intent.record position word = intent.record .filter word := by
      rcases filters with rfl | rfl <;> rfl
    rw [sameRecording]
    have named : (∃ filter : Filter, word = wordOf filter) ∨ word = "blockchain" := by
      rcases filters with rfl | rfl
      · rcases List.mem_append.mp entry with inFilters | inRest
        · exact Or.inl (Position.mem_wordsTo.mp inFilters).1
        · exact Or.inr (congrArg Prod.fst (List.mem_singleton.mp inRest))
      · exact Or.inl (Position.mem_wordsTo.mp entry).1
    rcases named with ⟨filter, rfl⟩ | rfl
    · exact record_filter_ok_iff
    · refine iff_of_true ⟨intent, rfl⟩ ?_
      rintro ⟨filter, _, sameWord, -⟩
      cases filter <;> exact absurd sameWord (by decide)
  · rw [not_or] at filters
    refine iff_of_true (record_ok_of_entry entry filters.1 filters.2) ?_
    intro conflicts
    exact not_or.mpr filters (conflicts.position_eq entry)

end Intent

namespace Parser

variable {parser : Parser} {word : String} {position target : Position} {intent : Intent}

theorem advance?_of_entry
    (entry : (word, target) ∈ position.transitions) :
    (∃ next recorded, advance? position intent word = some (next, recorded)) ↔
      ∃ recorded, intent.record position word = .ok recorded := by
  by_cases tabled : position.isTabled = true
  · simp only [advance?_tabled tabled]
    constructor
    · rintro ⟨_, recorded, -, recordedHere⟩
      exact ⟨recorded, recordedHere⟩
    · rintro ⟨recorded, recordedHere⟩
      exact ⟨target, recorded, entry, recordedHere⟩
  · cases position with
    | user | threshold => cases entry
    | currency =>
        have recordedHere : ∃ recorded, intent.record .currency word = .ok recorded :=
          Intent.record_ok_of_entry entry (by decide) (by decide)
        obtain ⟨⟨currency, rfl⟩, -⟩ := Position.mem_wordsTo.mp entry
        exact iff_of_true ⟨_, _, advance?_currency.mpr (Or.inl ⟨currency, rfl, rfl, rfl⟩)⟩
          recordedHere
    | _ => exact (tabled rfl).elim

/-- A token is accepted if it advances from where the parser stands. -/
theorem IsReading.feed_ok_iff
    (reading : parser.IsReading)
    (token : String) :
    (∃ next, (parser.feed token).1 = .ok next) ↔
      ∃ next recorded, advance? parser.position parser.intent token = some (next, recorded) := by
  have run := reading.feedRun token
  simp only [advance?_eq_some_iff, ← step_eq_ok_iff parser.consumed]
  rcases fed : parser.feed token with ⟨answer, behind⟩
  rw [fed] at run
  cases run with
  | accepted stepped => exact iff_of_true ⟨_, rfl⟩ ⟨_, _, stepped⟩
  | refused stepped => simp [stepped]

/-- A word that is expected where the parser stands is accepted unless it conflicts. -/
theorem IsReading.expected_ok_iff
    (reading : parser.IsReading)
    (offered : word ∈ parser.position.expected) :
    (∃ next, (parser.feed word).1 = .ok next) ↔ ¬ parser.intent.Conflicts word := by
  obtain ⟨entry, inTable, rfl⟩ := List.mem_map.mp (mem_sortedTexts.mp offered)
  rw [reading.feed_ok_iff, advance?_of_entry inTable, Intent.record_ok_iff_of_entry inTable]

end Parser

/--
A word that is suggested for a sentence leads on from the tokens that were accepted, unless it
is that of a private or public blockchain and the other one is among the recorded filters.
-/
theorem suggested_word_accepted_iff
    {text word : String}
    {error : SentenceError}
    (failed : parseSentence text = .error error)
    (offered : word ∈ (suggest text).expected) :
    let accepted := (tokenize text).take (error.acceptedCount (tokenize text))
    let reached := ({} : Parser).feedAll accepted
    (∃ next, (reached.feed word).1 = .ok next) ↔ ¬ reached.intent.Conflicts word := by
  intro accepted reached
  obtain ⟨front, reading, fails⟩ := Parser.start_isReading.exists_failsBehind failed
  obtain ⟨sameTokens, samePosition⟩ := fails.reported
  have offeredThere : word ∈ error.position.expected := by
    rw [suggest, failed] at offered
    exact offered
  have reachedEq : reached = ({} : Parser).feedAll front :=
    congrArg (Parser.feedAll {}) sameTokens
  rw [samePosition, ← reachedEq] at offeredThere
  exact (reachedEq ▸ reading).expected_ok_iff offeredThere

/-- Behind a private blockchain a popular one is suggested and accepted. -/
theorem suggested_word_accepted_behind_private :
    let text := "for a select the cheapest private and"
    let reached := ({} : Parser).feedAll (tokenize text)
    parseSentence text = .error (.incomplete .filter) ∧ "popular" ∈ (suggest text).expected ∧
      ∃ next, (reached.feed "popular").1 = .ok next := by
  have failed : parseSentence "for a select the cheapest private and" =
      .error (.incomplete .filter) := by decide +kernel
  have offered : "popular" ∈ (suggest "for a select the cheapest private and").expected := by
    decide +kernel
  refine ⟨failed, offered, (suggested_word_accepted_iff failed offered).mpr ?_⟩
  rintro ⟨filter, opposite, sameWord, opposed, -⟩
  cases filter with
  | privateChain | publicChain => exact absurd sameWord (by decide)
  | _ => cases opposed

/-- Behind a private blockchain a public one is suggested and refused. -/
theorem suggested_word_refused_behind_private :
    let text := "for a select the cheapest private and public"
    let reached := ({} : Parser).feedAll ((tokenize text).take 7)
    let refusal : SentenceError :=
      .validation .filter 7 "public" (.conflictingFilters .privateChain .publicChain)
    parseSentence text = .error refusal ∧ refusal.acceptedCount (tokenize text) = 7 ∧
      "public" ∈ (suggest text).expected ∧ (reached.feed "public").1 = .error refusal := by
  decide +kernel

end IntentPolicy
