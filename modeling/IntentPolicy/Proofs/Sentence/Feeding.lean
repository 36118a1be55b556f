import IntentPolicy.Proofs.Sentence.Acceptance

namespace IntentPolicy

/-!
# Feeding tokens

A parser may be fed the tokens of a sentence one by one, whatever it answers.  It ends where
parsing ends, and a sentence that fails has fed it all tokens in front of the failure.
-/

namespace SentenceError

/-- The token that is refused; none when the sentence ran out. -/
def token? : SentenceError → Option String
  | .transition _ _ token => some token
  | .validation _ _ token _ => some token
  | .incomplete _ => none

/-- The number of tokens that were accepted before the failure. -/
def acceptedCount (error : SentenceError) (tokens : List String) : Nat :=
  error.index?.getD tokens.length

end SentenceError

namespace Parser

/-- The parser behind tokens that are fed to it, whatever it answers. -/
def feedAll (parser : Parser) (tokens : List String) : Parser :=
  tokens.foldl (fun parser token => (parser.feed token).2) parser

/-- The parser has not met a failure. -/
structure IsReading (parser : Parser) : Prop where
  notFailed : parser.position ≠ .error
  noFailure : parser.failure = none

/-- The parser has met a failure, which it keeps. -/
structure HasFailed (parser : Parser) (error : SentenceError) : Prop where
  position : parser.position = .error
  failure : parser.failure = some error

variable {parser : Parser} {token : String} {tokens : List String} {error : SentenceError}

theorem start_isReading : ({} : Parser).IsReading :=
  ⟨by decide, rfl⟩

theorem feedAll_cons
    (token : String)
    (behind : List String) :
    parser.feedAll (token :: behind) = (parser.feed token).2.feedAll behind :=
  rfl

theorem feedAll_append
    (tokens behind : List String) :
    parser.feedAll (tokens ++ behind) = (parser.feedAll tokens).feedAll behind :=
  List.foldl_append

/-- A token is refused for a reason that names where it stands, or accepted and counted. -/
inductive FeedRun (parser : Parser) (token : String) :
    Except SentenceError Position → Parser → Prop
  | accepted {next : Position} {recorded : Intent}
      (stepped : step parser.position parser.intent parser.consumed token = .ok (next, recorded)) :
      FeedRun parser token (.ok next) ⟨next, recorded, parser.consumed + 1, none⟩
  | refused {error : SentenceError}
      (stepped : step parser.position parser.intent parser.consumed token = .error error) :
      FeedRun parser token (.error error)
        ⟨.error, parser.intent, parser.consumed + 1, some error⟩

/-- Feeding a token to a parser that has not failed does what one of the cases says. -/
theorem IsReading.feedRun
    (reading : parser.IsReading)
    (token : String) :
    FeedRun parser token (parser.feed token).1 (parser.feed token).2 := by
  rw [feed, if_neg reading.notFailed]
  cases stepped : step parser.position parser.intent parser.consumed token with
  | error refusal => exact .refused stepped
  | ok reached =>
      rw [reading.noFailure]
      exact .accepted stepped

/-- A token is refused where it stands. -/
theorem refusal_of_step
    {position : Position}
    {intent : Intent}
    {index : Nat}
    (stepped : step position intent index token = .error error) :
    error.position = position ∧ error.index? = some index ∧ error.token? = some token := by
  unfold step at stepped
  split at stepped
  · rw [← Except.error.inj stepped]
    exact ⟨rfl, rfl, rfl⟩
  · split at stepped
    · cases stepped
    · rw [← Except.error.inj stepped]
      exact ⟨rfl, rfl, rfl⟩

theorem isReading_of_step
    {position next : Position}
    {intent recorded : Intent}
    {index consumed : Nat}
    (stepped : step position intent index token = .ok (next, recorded)) :
    (⟨next, recorded, consumed, none⟩ : Parser).IsReading :=
  ⟨advance?_ne_error (advance?_eq_some_iff.mpr ((step_eq_ok_iff index).mp stepped)), rfl⟩

/-- A failure is kept, whatever is fed behind it. -/
theorem HasFailed.feedAll
    (failed : parser.HasFailed error)
    (tokens : List String) :
    (parser.feedAll tokens).HasFailed error := by
  induction tokens generalizing parser with
  | nil => exact failed
  | cons token rest inductionHypothesis =>
      have keeps : (parser.feed token).2.HasFailed error := by
        rw [feed, if_pos failed.position]
        exact ⟨failed.position, failed.failure⟩
      exact inductionHypothesis keeps

theorem HasFailed.finish
    (failed : parser.HasFailed error) :
    parser.finish = .error error := by
  rw [Parser.finish, failed.failure]

/-- Feeding all tokens ends as parsing does, which stops at the first failure. -/
theorem IsReading.finish_feedAll
    (reading : parser.IsReading)
    (tokens : List String) :
    (parser.feedAll tokens).finish = parser.run tokens := by
  induction tokens generalizing parser with
  | nil => rfl
  | cons token rest inductionHypothesis =>
      have run := reading.feedRun token
      rw [feedAll_cons, Parser.run]
      rcases fed : parser.feed token with ⟨answer, behind⟩
      rw [fed] at run
      cases run with
      | accepted stepped => exact inductionHypothesis (isReading_of_step stepped)
      | @refused refusal stepped =>
          -- Parsing stops here, and what is fed behind the failure leaves it as it is.
          have failed :
              HasFailed ⟨.error, parser.intent, parser.consumed + 1, some refusal⟩ refusal :=
            ⟨rfl, rfl⟩
          exact (failed.feedAll rest).finish

/--
Where a sentence fails: behind tokens that were all accepted, a token is refused or nothing
follows although the sentence may not end.
-/
inductive FailsBehind (parser : Parser) (accepted : List String) :
    List String → SentenceError → Prop
  | refused {token : String} {rest : List String} {error : SentenceError}
      (stepped : step (parser.feedAll accepted).position (parser.feedAll accepted).intent
        (parser.consumed + accepted.length) token = .error error) :
      FailsBehind parser accepted (accepted ++ token :: rest) error
  | ranOut
      (notAccepting : (parser.feedAll accepted).position.isAccepting = false) :
      FailsBehind parser accepted accepted (.incomplete (parser.feedAll accepted).position)

/-- A sentence that fails does so behind some of its tokens, which leave the parser reading. -/
theorem IsReading.exists_failsBehind
    (reading : parser.IsReading)
    (failed : parser.run tokens = .error error) :
    ∃ accepted, (parser.feedAll accepted).IsReading ∧
      parser.FailsBehind accepted tokens error := by
  induction tokens generalizing parser with
  | nil =>
      rw [run, finish, reading.noFailure] at failed
      refine ⟨[], reading, ?_⟩
      cases accepting : parser.position.isAccepting with
      | true => simp [accepting] at failed
      | false =>
          simp only [accepting, Bool.false_eq_true, ↓reduceIte, Except.error.injEq] at failed
          rw [← failed]
          exact .ranOut accepting
  | cons token rest inductionHypothesis =>
      have run := reading.feedRun token
      rw [Parser.run] at failed
      rcases fed : parser.feed token with ⟨answer, behind⟩
      rw [fed] at run failed
      cases run with
      | refused stepped =>
          rw [← Except.error.inj failed]
          exact ⟨[], reading, .refused stepped⟩
      | @accepted next recorded stepped =>
          -- The place of the failure is counted from the next parser, which has consumed one more.
          obtain ⟨accepted, stillReading, fails⟩ :=
            inductionHypothesis (isReading_of_step stepped) failed
          have goesOn : parser.feedAll (token :: accepted) =
              (⟨next, recorded, parser.consumed + 1, none⟩ : Parser).feedAll accepted := by
            rw [feedAll_cons, fed]
          have oneMore : parser.consumed + (token :: accepted).length =
              parser.consumed + 1 + accepted.length := by
            rw [List.length_cons]
            omega
          refine ⟨token :: accepted, goesOn ▸ stillReading, ?_⟩
          cases fails with
          | refused stepped =>
              rw [← goesOn, ← oneMore] at stepped
              exact .refused stepped
          | ranOut notAccepting =>
              rw [← goesOn] at notAccepting ⊢
              exact .ranOut notAccepting

/-- What an error of a fresh parser tells: how many tokens were accepted, and where the parser
stood behind them. -/
theorem FailsBehind.reported
    {accepted : List String}
    (fails : ({} : Parser).FailsBehind accepted tokens error) :
    tokens.take (error.acceptedCount tokens) = accepted ∧
      error.position = (({} : Parser).feedAll accepted).position := by
  cases fails with
  | @refused token rest _ stepped =>
      obtain ⟨samePosition, sameIndex, -⟩ := refusal_of_step stepped
      have count : error.acceptedCount (accepted ++ token :: rest) = accepted.length := by
        rw [SentenceError.acceptedCount, sameIndex, Option.getD_some]
        exact Nat.zero_add _
      rw [count]
      exact ⟨List.take_left, samePosition⟩
  | ranOut => exact ⟨List.take_length, rfl⟩

end Parser

end IntentPolicy
