import IntentPolicy.Proofs.Sentence.Feeding

namespace IntentPolicy

/-!
# Absorbing the first failure

A parser that is fed token by token reports one failure at most.  Every token in front of it is
accepted and every token behind it is swallowed, so whoever ignores the answers is told at the
end what parsing tells at once.
-/

namespace Parser

/-- What a parser answers to tokens that are fed to it one after the other. -/
def answers (parser : Parser) : List String → List (Except SentenceError Position)
  | [] => []
  | token :: rest => (parser.feed token).1 :: (parser.feed token).2.answers rest

/-- A token is accepted and the parser goes on reading. -/
def IsAcceptance (answer : Except SentenceError Position) : Prop :=
  ∃ position, answer = .ok position ∧ position ≠ .error

variable {parser : Parser} {token : String} {tokens : List String} {error : SentenceError}

theorem answers_append
    (tokens behind : List String) :
    parser.answers (tokens ++ behind) =
      parser.answers tokens ++ (parser.feedAll tokens).answers behind := by
  induction tokens generalizing parser with
  | nil => rfl
  | cons token rest inductionHypothesis =>
      rw [List.cons_append, answers, answers, inductionHypothesis, feedAll_cons, List.cons_append]

/-- Behind a failure a token is swallowed, whatever it is. -/
theorem HasFailed.feed
    (failed : parser.HasFailed error)
    (token : String) :
    (parser.feed token).1 = .ok .error ∧ (parser.feed token).2.HasFailed error := by
  rw [Parser.feed, if_pos failed.position]
  exact ⟨rfl, failed.position, failed.failure⟩

/-- Behind a failure all tokens are swallowed. -/
theorem HasFailed.answers_eq
    (failed : parser.HasFailed error)
    (tokens : List String) :
    parser.answers tokens = List.replicate tokens.length (.ok .error) := by
  induction tokens generalizing parser with
  | nil => rfl
  | cons token rest inductionHypothesis =>
      obtain ⟨swallowed, stillFailed⟩ := failed.feed token
      rw [answers, swallowed, inductionHypothesis stillFailed]
      rfl

/-- A failed parser expects what its failure tells. -/
theorem HasFailed.expected
    (failed : parser.HasFailed error) :
    parser.expected = error.expected := by
  rw [Parser.expected, failed.failure]

/-- A token is accepted by a parser that goes on reading, or makes it fail. -/
theorem IsReading.feed_cases
    (reading : parser.IsReading)
    (token : String) :
    IsAcceptance (parser.feed token).1 ∧ (parser.feed token).2.IsReading ∨
      ∃ error, (parser.feed token).1 = .error error ∧ (parser.feed token).2.HasFailed error := by
  have run := reading.feedRun token
  rcases fed : parser.feed token with ⟨answer, behind⟩
  rw [fed] at run
  cases run with
  | accepted stepped =>
      have goesOn : Parser.IsReading ⟨_, _, parser.consumed + 1, none⟩ := isReading_of_step stepped
      exact Or.inl ⟨⟨_, rfl, goesOn.notFailed⟩, goesOn⟩
  | refused stepped => exact Or.inr ⟨_, rfl, rfl, rfl⟩

/-- Tokens are all accepted, or one of them makes the parser fail for good. -/
theorem IsReading.feedAll_cases
    (reading : parser.IsReading)
    (tokens : List String) :
    (∀ answer ∈ parser.answers tokens, IsAcceptance answer) ∧ (parser.feedAll tokens).IsReading ∨
      ∃ error, (parser.feedAll tokens).HasFailed error := by
  induction tokens generalizing parser with
  | nil => exact Or.inl ⟨List.forall_mem_nil _, reading⟩
  | cons token rest inductionHypothesis =>
      rw [answers, feedAll_cons]
      rcases reading.feed_cases token with ⟨accepted, goesOn⟩ | ⟨error, -, failed⟩
      · refine (inductionHypothesis goesOn).imp_left ?_
        rintro ⟨acceptedBehind, stillReading⟩
        exact ⟨List.forall_mem_cons.mpr ⟨accepted, acceptedBehind⟩, stillReading⟩
      · exact Or.inr ⟨error, failed.feedAll rest⟩

/-- A parser that reports a failure has accepted every token in front, and keeps the failure. -/
theorem IsReading.of_refused
    (reading : parser.IsReading)
    (refused : ((parser.feedAll tokens).feed token).1 = .error error) :
    (∀ answer ∈ parser.answers tokens, IsAcceptance answer) ∧
      ((parser.feedAll tokens).feed token).2.HasFailed error := by
  rcases reading.feedAll_cases tokens with ⟨accepted, stillReading⟩ | ⟨earlier, failed⟩
  · rcases stillReading.feed_cases token with
      ⟨⟨position, isAccepted, -⟩, -⟩ | ⟨reported, isReported, failed⟩
    · rw [isAccepted] at refused
      cases refused
    · rw [isReported] at refused
      obtain rfl := Except.error.inj refused
      exact ⟨accepted, failed⟩
  · rw [(failed.feed token).1] at refused
    cases refused

end Parser

/--
Feeding the tokens of a text and finishing, whatever is answered on the way, is parsing it.
And whatever tokens are fed, a failure that is reported is the first and the only one: the tokens
in front of it were accepted, those behind it are swallowed, and from then on the parser stands
at the error position, which no sentence may end at, expects what would have been admitted
instead, and finishes with the failure.
-/
theorem feeding_absorbs_first_failure :
    (∀ text, (({} : Parser).feedAll (tokenize text)).finish = parseSentence text) ∧
    ∀ before token failure, ((({} : Parser).feedAll before).feed token).1 = .error failure →
      (∀ answer ∈ ({} : Parser).answers before, Parser.IsAcceptance answer) ∧
      ∀ behind,
        let reached := ({} : Parser).feedAll (before ++ token :: behind)
        ({} : Parser).answers (before ++ token :: behind) =
          ({} : Parser).answers before ++
            .error failure :: List.replicate behind.length (.ok .error) ∧
        (∀ next, (reached.feed next).1 = .ok .error) ∧
        reached.position = .error ∧
        reached.position.isAccepting = false ∧
        reached.expected = failure.expected ∧
        reached.finish = .error failure := by
  refine ⟨fun text => Parser.start_isReading.finish_feedAll _, ?_⟩
  intro before token failure refused
  obtain ⟨accepted, failed⟩ := Parser.start_isReading.of_refused refused
  refine ⟨accepted, fun behind => ?_⟩
  have reachedEq : ({} : Parser).feedAll (before ++ token :: behind) =
      ((({} : Parser).feedAll before).feed token).2.feedAll behind := by
    rw [Parser.feedAll_append, Parser.feedAll_cons]
  have stillFailed := failed.feedAll behind
  rw [← reachedEq] at stillFailed
  refine ⟨?_, fun next => (stillFailed.feed next).1, stillFailed.position, ?_,
    stillFailed.expected, stillFailed.finish⟩
  · rw [Parser.answers_append, Parser.answers, refused, failed.answers_eq]
  · rw [stillFailed.position]
    rfl

/-- An unknown blockchain is refused, and a correct end of the sentence does not help. -/
theorem feeding_absorbs_first_failure_at_unknown_blockchain :
    let failure : SentenceError := .transition .selection 3 "moon"
    let reached := ({} : Parser).feedAll ["for", "a", "select", "moon", "as", "default"]
    ((({} : Parser).feedAll ["for", "a", "select"]).feed "moon").1 = .error failure ∧
      ({} : Parser).answers ["for", "a", "select", "moon", "as", "default"] =
        [.ok .user, .ok .afterUser, .ok .selection, .error failure, .ok .error, .ok .error] ∧
      reached.finish = .error failure := by
  intro failure reached
  have refused : ((({} : Parser).feedAll ["for", "a", "select"]).feed "moon").1 =
      .error failure := by decide +kernel
  have front : ({} : Parser).answers ["for", "a", "select"] =
      [.ok .user, .ok .afterUser, .ok .selection] := by decide +kernel
  obtain ⟨-, absorbed⟩ := feeding_absorbs_first_failure.2 _ _ _ refused
  obtain ⟨answered, -, -, -, -, finished⟩ := absorbed ["as", "default"]
  rw [front] at answered
  exact ⟨refused, answered, finished⟩

end IntentPolicy
