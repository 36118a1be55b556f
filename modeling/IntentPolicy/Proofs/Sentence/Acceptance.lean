import IntentPolicy.Proofs.Sentence.Grammar
import IntentPolicy.Proofs.Sentence.Threshold
import IntentPolicy.Sentence.Parser

namespace IntentPolicy

/-!
# What a position still accepts

From a position and the intent recorded so far, some lists of tokens lead to the end of a
sentence.  This relation leaves out what the parser keeps for its errors, and has one rule
for every position.
-/

namespace Position

/-- The tokens that lead on from the position are those of its table. -/
def isTabled : Position → Bool
  | .user | .threshold | .currency => false
  | _ => true

/-- No table has two entries for one token. -/
theorem transitions_nodup
    (position : Position) :
    (position.transitions.map (·.1)).Nodup := by
  cases position <;> decide

/-- A token leads on exactly along the entries of the table. -/
theorem next?_eq_some_iff
    {position next : Position}
    {token : String} :
    position.next? token = some next ↔ (token, next) ∈ position.transitions := by
  have distinct := transitions_nodup position
  unfold next?
  generalize position.transitions = entries at distinct ⊢
  induction entries with
  | nil => simp
  | cons entry rest inductionHypothesis =>
      rcases entry with ⟨word, target⟩
      simp only [List.map_cons, List.nodup_cons, List.mem_map, Prod.exists, exists_and_right,
        exists_eq_right, not_exists] at distinct
      rcases distinct with ⟨wordFresh, restDistinct⟩
      rw [List.find?_cons]
      by_cases sameWord : word = token
      · subst sameWord
        simp only [BEq.rfl, Option.map_some, Option.some.injEq, List.mem_cons, Prod.mk.injEq,
          true_and]
        constructor
        · intro sameTarget
          exact Or.inl sameTarget.symm
        · rintro (sameTarget | inRest)
          · exact sameTarget.symm
          · exact (wordFresh next inRest).elim
      · have differs : (word == token) = false := beq_false_of_ne sameWord
        simp only [differs, inductionHypothesis restDistinct, List.mem_cons, Prod.mk.injEq,
          Ne.symm sameWord, false_and, false_or]

theorem mem_wordsTo
    {Value : Type}
    [Vocabulary Value]
    {token : String}
    {next target : Position} :
    (token, next) ∈ wordsTo Value target ↔
      (∃ value : Value, token = wordOf value) ∧ next = target := by
  simp only [wordsTo, List.mem_map, Prod.mk.injEq]
  constructor
  · rintro ⟨value, -, rfl, rfl⟩
    exact ⟨⟨value, rfl⟩, rfl⟩
  · rintro ⟨⟨value, rfl⟩, rfl⟩
    exact ⟨value, Vocabulary.mem_all value, rfl, rfl⟩

theorem mem_separatorsTo
    {token : String}
    {next target : Position} :
    (token, next) ∈ separatorsTo target ↔
      (∃ separator : Separator, token = separator.token) ∧ next = target := by
  simp only [separatorsTo, List.mem_cons, Prod.mk.injEq, List.not_mem_nil, or_false]
  constructor
  · rintro (⟨rfl, rfl⟩ | ⟨rfl, rfl⟩)
    · exact ⟨⟨.conjunction, rfl⟩, rfl⟩
    · exact ⟨⟨.comma, rfl⟩, rfl⟩
  · rintro ⟨⟨separator, rfl⟩, rfl⟩
    cases separator with
    | comma => exact Or.inr ⟨rfl, rfl⟩
    | conjunction => exact Or.inl ⟨rfl, rfl⟩

/-- No table leads to the position behind a failure. -/
theorem not_error_of_mem_transitions
    {position next : Position}
    {token : String}
    (entry : (token, next) ∈ position.transitions) :
    next ≠ .error := by
  have targets : ∀ target ∈ position.transitions.map (·.2), target ≠ .error := by
    cases position <;> decide
  exact targets next (List.mem_map.mpr ⟨_, entry, rfl⟩)

end Position

namespace Parser

/-- Where one token leads, and the intent with the token recorded, if it is admitted. -/
def advance? (position : Position) (intent : Intent) (token : String) :
    Option (Position × Intent) :=
  (step position intent 0 token).toOption

/-- A token is admitted if it has a route and can be recorded along it. -/
theorem step_eq_ok_iff
    {position next : Position}
    {intent recorded : Intent}
    (index : Nat)
    {token : String} :
    step position intent index token = .ok (next, recorded) ↔
      ∃ hook, route? position token = some (hook, next) ∧
        intent.record hook token = .ok recorded := by
  unfold step
  cases routed : route? position token with
  | none => simp
  | some route =>
      rcases route with ⟨hook, behind⟩
      cases recording : intent.record hook token with
      | error reason =>
          simp [recording]
      | ok changed =>
          simp only [recording, Except.ok.injEq, Prod.mk.injEq, Option.some.injEq]
          constructor
          · rintro ⟨rfl, rfl⟩
            exact ⟨hook, ⟨rfl, rfl⟩, recording⟩
          · rintro ⟨_, ⟨rfl, rfl⟩, recordedSame⟩
            rw [recording] at recordedSame
            exact ⟨rfl, Except.ok.inj recordedSame⟩

/-- The number of a token matters to errors only. -/
theorem advance?_eq_some_iff
    {position next : Position}
    {intent recorded : Intent}
    {token : String} :
    advance? position intent token = some (next, recorded) ↔
      ∃ hook, route? position token = some (hook, next) ∧
        intent.record hook token = .ok recorded := by
  rw [← step_eq_ok_iff 0]
  unfold advance?
  cases step position intent 0 token <;> simp [Except.toOption]

/-- Where a table decides, a token advances along its entry and is recorded there. -/
theorem advance?_tabled
    {position next : Position}
    {intent recorded : Intent}
    {token : String}
    (tabled : position.isTabled = true) :
    advance? position intent token = some (next, recorded) ↔
      (token, next) ∈ position.transitions ∧ intent.record position token = .ok recorded := by
  have routed : route? position token = (position.next? token).map fun next => (position, next) := by
    cases position with
    | user | threshold | currency => cases tabled
    | _ => rfl
  rw [advance?_eq_some_iff, routed, ← Position.next?_eq_some_iff]
  cases position.next? token with
  | none => simp
  | some target =>
      simp only [Option.map_some, Option.some.injEq, Prod.mk.injEq]
      constructor
      · rintro ⟨_, ⟨rfl, rfl⟩, recordedHere⟩
        exact ⟨rfl, recordedHere⟩
      · rintro ⟨rfl, recordedHere⟩
        exact ⟨position, ⟨rfl, rfl⟩, recordedHere⟩

theorem advance?_user
    {next : Position}
    {intent recorded : Intent}
    {token : String} :
    advance? .user intent token = some (next, recorded) ↔
      next = .afterUser ∧ recorded = intent.addUser token := by
  rw [advance?_eq_some_iff]
  simp only [route?, Option.some.injEq, Prod.mk.injEq]
  constructor
  · rintro ⟨_, ⟨rfl, rfl⟩, recordedHere⟩
    exact ⟨rfl, (Except.ok.inj recordedHere).symm⟩
  · rintro ⟨rfl, rfl⟩
    exact ⟨.user, ⟨rfl, rfl⟩, rfl⟩

end Parser

namespace Intent

/-- A token is recorded as a threshold if it is read as one. -/
theorem record_threshold
    {intent recorded : Intent}
    {token : String} :
    intent.record .threshold token = .ok recorded ↔
      ∃ amount, readThreshold token = .ok amount ∧
        recorded = { intent with threshold := some amount } := by
  have recording : intent.record .threshold token =
      (readThreshold token).map fun amount => { intent with threshold := some amount } := rfl
  rw [recording]
  cases readThreshold token with
  | error reason => simp [Except.map]
  | ok amount =>
      simp only [Except.map, Except.ok.injEq, exists_eq_left']
      exact eq_comm

end Intent

namespace Parser

/-- A token is admitted as a threshold if it is read as one. -/
theorem advance?_threshold
    {next : Position}
    {intent recorded : Intent}
    {token : String} :
    advance? .threshold intent token = some (next, recorded) ↔
      next = .costBounded ∧ ∃ amount, readThreshold token = .ok amount ∧
        recorded = { intent with threshold := some amount } := by
  rw [advance?_eq_some_iff, ← Intent.record_threshold]
  simp only [route?, Option.some.injEq, Prod.mk.injEq]
  constructor
  · rintro ⟨_, ⟨rfl, rfl⟩, recordedHere⟩
    exact ⟨rfl, recordedHere⟩
  · rintro ⟨rfl, recordedHere⟩
    exact ⟨.threshold, ⟨rfl, rfl⟩, recordedHere⟩

theorem currency_ofText?_wordOf
    (currency : Currency) :
    Currency.ofText? (wordOf currency) = some currency := by
  cases currency <;> decide

/--
Where a currency may stand, the word of one is recorded, and a token that is read as a
threshold is recorded as if the currency had been passed.
-/
theorem advance?_currency
    {next : Position}
    {intent recorded : Intent}
    {token : String} :
    advance? .currency intent token = some (next, recorded) ↔
      (∃ currency : Currency, token = wordOf currency ∧ next = .threshold ∧
        recorded = { intent with currency := some currency }) ∨
      (next = .costBounded ∧ ∃ amount, readThreshold token = .ok amount ∧
        recorded = { intent with threshold := some amount }) := by
  rw [advance?_eq_some_iff, ← Intent.record_threshold]
  cases named : Currency.ofText? token with
  | none =>
      simp only [route?, named, Option.isNone_none, ↓reduceIte, Option.some.injEq, Prod.mk.injEq]
      constructor
      · rintro ⟨_, ⟨rfl, rfl⟩, recordedHere⟩
        exact Or.inr ⟨rfl, recordedHere⟩
      · rintro (⟨currency, rfl, -⟩ | ⟨rfl, recordedHere⟩)
        · rw [currency_ofText?_wordOf] at named
          cases named
        · exact ⟨.threshold, ⟨rfl, rfl⟩, recordedHere⟩
  | some known =>
      have recording : intent.record .currency token =
          .ok { intent with currency := some known } := by
        unfold Intent.record
        simp only [named]
      have routed : route? .currency token =
          (Position.next? .currency token).map fun next => (.currency, next) := by
        simp [route?, named]
      constructor
      · rintro ⟨hook, routedHere, recordedHere⟩
        rw [routed] at routedHere
        obtain ⟨target, entry, shape⟩ := Option.map_eq_some_iff.mp routedHere
        obtain ⟨rfl, rfl⟩ := Prod.mk.inj shape
        rw [recording] at recordedHere
        obtain ⟨⟨currency, rfl⟩, rfl⟩ :=
          Position.mem_wordsTo.mp (Position.next?_eq_some_iff.mp entry)
        rw [currency_ofText?_wordOf] at named
        obtain rfl := Option.some.inj named
        exact Or.inl ⟨currency, rfl, rfl, (Except.ok.inj recordedHere).symm⟩
      · rintro (⟨currency, rfl, rfl, rfl⟩ | ⟨-, recordedHere⟩)
        · rw [currency_ofText?_wordOf] at named
          obtain rfl := Option.some.inj named
          refine ⟨.currency, ?_, recording⟩
          rw [routed, Position.next?_eq_some_iff.mpr (Position.mem_wordsTo.mpr ⟨⟨currency, rfl⟩, rfl⟩)]
          rfl
        · obtain ⟨amount, accepted, -⟩ := Intent.record_threshold.mp recordedHere
          rw [currency_of_readThreshold accepted] at named
          cases named

/-- No token leads to the position behind a failure. -/
theorem advance?_ne_error
    {position next : Position}
    {intent recorded : Intent}
    {token : String}
    (advanced : advance? position intent token = some (next, recorded)) :
    next ≠ .error := by
  by_cases tabled : position.isTabled = true
  · exact Position.not_error_of_mem_transitions ((advance?_tabled tabled).mp advanced).1
  · cases position with
    | user =>
        rw [(advance?_user.mp advanced).1]
        decide
    | threshold =>
        rw [(advance?_threshold.mp advanced).1]
        decide
    | currency =>
        rcases advance?_currency.mp advanced with ⟨-, -, rfl, -⟩ | ⟨rfl, -⟩ <;> decide
    | _ => exact (tabled rfl).elim

end Parser

/-- From a position and an intent, the tokens lead to the end of a sentence that releases
another intent. -/
def Accepts : Position → Intent → List String → Intent → Prop
  | position, intent, [], released => position.isAccepting = true ∧ intent = released
  | position, intent, token :: rest, released =>
      ∃ next recorded,
        Parser.advance? position intent token = some (next, recorded) ∧
          Accepts next recorded rest released

/--
A parser that has not failed releases an intent exactly when its position accepts the
tokens with that intent.
-/
theorem Parser.run_eq_ok_iff_accepts
    {position : Position}
    {intent released : Intent}
    {consumed : Nat}
    {tokens : List String}
    (notFailed : position ≠ .error) :
    (⟨position, intent, consumed, none⟩ : Parser).run tokens = .ok released ↔
      Accepts position intent tokens released := by
  -- The positions that are reached do not fail either, so a failure is never kept.
  induction tokens generalizing position intent consumed with
  | nil =>
      simp only [run, finish, Accepts]
      cases position.isAccepting <;> simp
  | cons token rest inductionHypothesis =>
      simp only [run, feed, notFailed, ↓reduceIte, Accepts]
      cases stepped : step position intent consumed token with
      | error failure =>
          simp only [reduceCtorEq, false_iff]
          rintro ⟨next, recorded, advanced, -⟩
          rw [(step_eq_ok_iff _).mpr (advance?_eq_some_iff.mp advanced)] at stepped
          cases stepped
      | ok reached =>
          rcases reached with ⟨next, recorded⟩
          have advanced := advance?_eq_some_iff.mpr ((step_eq_ok_iff _).mp stepped)
          have nextNotFailed := advance?_ne_error advanced
          simp only [inductionHypothesis nextNotFailed, advanced, Option.some.injEq,
            Prod.mk.injEq]
          constructor
          · intro accepted
            exact ⟨next, recorded, ⟨rfl, rfl⟩, accepted⟩
          · rintro ⟨_, _, ⟨rfl, rfl⟩, accepted⟩
            exact accepted

namespace Accepts

/-- At a table's position the next token is one of the table, and is recorded there. -/
theorem tabled_iff
    {position : Position}
    {intent released : Intent}
    {tokens : List String}
    (tabled : position.isTabled = true)
    (notAccepting : position.isAccepting = false) :
    Accepts position intent tokens released ↔
      ∃ token next rest recorded, (token, next) ∈ position.transitions ∧
        tokens = token :: rest ∧ intent.record position token = .ok recorded ∧
        Accepts next recorded rest released := by
  cases tokens with
  | nil => simp [Accepts, notAccepting]
  | cons token rest =>
      constructor
      · rintro ⟨next, recorded, advanced, accepted⟩
        obtain ⟨entry, recordedHere⟩ := (Parser.advance?_tabled tabled).mp advanced
        exact ⟨token, next, rest, recorded, entry, rfl, recordedHere, accepted⟩
      · rintro ⟨_, next, _, recorded, entry, shape, recordedHere, accepted⟩
        obtain ⟨rfl, rfl⟩ := List.cons.inj shape
        exact ⟨next, recorded, (Parser.advance?_tabled tabled).mpr ⟨entry, recordedHere⟩, accepted⟩

/-- A sentence ends where it may end, and has no tokens left there. -/
theorem end_iff
    {position : Position}
    {intent released : Intent}
    {tokens : List String}
    (accepting : position.isAccepting = true) :
    Accepts position intent tokens released ↔ tokens = [] ∧ released = intent := by
  have closed : position.transitions = [] ∧ position.isTabled = true := by
    cases position with
    | costBounded | defaultPolicy => exact ⟨rfl, rfl⟩
    | _ => cases accepting
  cases tokens with
  | nil => simp [Accepts, accepting, eq_comm]
  | cons token rest =>
      simp [Accepts, Parser.advance?_tabled closed.2, closed.1]

end Accepts

end IntentPolicy
