import IntentPolicy.Proofs.Sentence.Feeding
import IntentPolicy.Proofs.Sentence.Tokens

namespace IntentPolicy

/-!
# Sentences can always be completed

Wherever a parser stands that has not failed, some token leads nearer to the end of a sentence,
whatever has been recorded.  So a failure is reported at the first token that no sentence can
have there.
-/

namespace Position

/-- A token that can always follow, with the position that it leads to; none at an end. -/
def lead? : Position → Option (String × Position)
  | .start => some ("for", .user)
  | .user => some ("anyone", .afterUser)
  | .afterUser => some ("select", .selection)
  | .timeframeArticle => some ("the", .timeframe)
  | .timeframe => some ("day", .select)
  | .select => some ("select", .selection)
  | .selection => some ("bitcoin", .afterBlockchain)
  | .profile => some ("cheapest", .profileFilters)
  | .profileFilters => some ("blockchain", .afterProfile)
  | .filter => some ("stable", .afterFilter)
  | .afterFilter => some ("blockchain", .afterProfile)
  | .whitelist => some ("bitcoin", .afterWhitelist)
  | .blacklist => some ("bitcoin", .afterBlacklist)
  | .modifier => some ("encryption", .afterModifier)
  | .afterBlockchain | .afterProfile | .afterWhitelist | .afterBlacklist | .afterModifier =>
      some ("as", .defaultKeyword)
  | .intervalArticle => some ("the", .interval)
  | .interval => some ("daily", .costs)
  | .costs => some ("costs", .reach)
  | .reach => some ("reach", .currency)
  | .currency | .threshold => some ("0", .costBounded)
  | .defaultKeyword => some ("default", .defaultPolicy)
  | .costBounded | .defaultPolicy | .error => none

/-- How many tokens lead from a position to an end. -/
def distance : Position → Nat
  | .costBounded | .defaultPolicy | .error => 0
  | .defaultKeyword | .currency | .threshold => 1
  | .afterBlockchain | .afterProfile | .afterWhitelist | .afterBlacklist | .afterModifier
  | .reach => 2
  | .profileFilters | .afterFilter | .whitelist | .blacklist | .modifier | .selection
  | .costs => 3
  | .filter | .profile | .afterUser | .select | .interval => 4
  | .user | .timeframe | .intervalArticle => 5
  | .start | .timeframeArticle => 6

variable {position next : Position} {token : String}

/-- Every token that leads on leads nearer to an end, and is cut into itself. -/
theorem lead?_nearer
    (leads : position.lead? = some (token, next)) :
    next.distance + 1 = position.distance ∧ next ≠ .error ∧ IsToken token := by
  have nearer : ∀ lead ∈ position.lead?,
      lead.2.distance + 1 = position.distance ∧ lead.2 ≠ .error ∧ IsToken lead.1 := by
    cases position <;> decide
  exact nearer (token, next) leads

theorem isAccepting_of_lead?
    (notFailed : position ≠ .error)
    (leads : position.lead? = none) :
    position.isAccepting = true := by
  cases position with
  | costBounded | defaultPolicy => rfl
  | error => exact (notFailed rfl).elim
  | _ => cases leads

end Position

theorem readThreshold_zero : readThreshold "0" = .ok .zero := by
  decide +kernel

/-- A token that leads on is admitted, whatever has been recorded. -/
theorem Parser.advance?_lead
    {position next : Position}
    {token : String}
    (leads : position.lead? = some (token, next))
    (intent : Intent) :
    ∃ recorded, advance? position intent token = some (next, recorded) := by
  cases position with
  | costBounded | defaultPolicy | error => cases leads
  | currency =>
      obtain ⟨rfl, rfl⟩ := Prod.mk.inj (Option.some.inj leads)
      exact ⟨_, advance?_currency.mpr (Or.inr ⟨rfl, _, readThreshold_zero, rfl⟩)⟩
  | threshold =>
      obtain ⟨rfl, rfl⟩ := Prod.mk.inj (Option.some.inj leads)
      exact ⟨_, advance?_threshold.mpr ⟨rfl, _, readThreshold_zero, rfl⟩⟩
  | filter =>
      -- A stable blockchain is implied by no profile and conflicts with no other filter.
      obtain ⟨rfl, rfl⟩ := Prod.mk.inj (Option.some.inj leads)
      have added : ∃ recorded, intent.addFilter .stable = .ok recorded := by
        unfold Intent.addFilter
        split <;> exact ⟨_, rfl⟩
      obtain ⟨recorded, addedHere⟩ := added
      refine ⟨recorded, (advance?_tabled rfl).mpr ⟨by decide, ?_⟩⟩
      exact addedHere
  | _ =>
      obtain ⟨rfl, rfl⟩ := Prod.mk.inj (Option.some.inj leads)
      exact ⟨_, rfl⟩

/-- From every position that is not behind a failure some tokens lead to the end. -/
theorem Accepts.exists_completion
    {position : Position}
    (notFailed : position ≠ .error)
    (intent : Intent) :
    ∃ tokens released, (∀ token ∈ tokens, IsToken token) ∧
      Accepts position intent tokens released := by
  -- On the distance from the end: what is recorded on the way does not matter.
  induction far : position.distance generalizing position intent with
  | zero =>
      cases leads : position.lead? with
      | none => exact ⟨[], intent, by simp, Position.isAccepting_of_lead? notFailed leads, rfl⟩
      | some lead =>
          have nearer := (Position.lead?_nearer leads).1
          omega
  | succ distance inductionHypothesis =>
      cases leads : position.lead? with
      | none => exact ⟨[], intent, by simp, Position.isAccepting_of_lead? notFailed leads, rfl⟩
      | some lead =>
          obtain ⟨nearer, nextNotFailed, isToken⟩ := Position.lead?_nearer leads
          obtain ⟨recorded, advanced⟩ := Parser.advance?_lead leads intent
          obtain ⟨tokens, released, areTokens, accepted⟩ :=
            inductionHypothesis nextNotFailed recorded (by omega)
          exact ⟨lead.1 :: tokens, released, List.forall_mem_cons.mpr ⟨isToken, areTokens⟩,
            lead.2, recorded, advanced, accepted⟩

namespace Parser

variable {parser : Parser} {front tokens : List String} {released : Intent}

/-- A parser that has not failed releases what is accepted where it stands. -/
theorem IsReading.run_eq_ok_iff
    (reading : parser.IsReading) :
    parser.run tokens = .ok released ↔ Accepts parser.position parser.intent tokens released := by
  rcases parser with ⟨position, intent, consumed, failure⟩
  obtain rfl : failure = none := reading.noFailure
  exact run_eq_ok_iff_accepts reading.notFailed

/-- Tokens are parsed behind others as from where the others lead. -/
theorem IsReading.run_append
    (reading : parser.IsReading)
    (readingBehind : (parser.feedAll front).IsReading)
    (tokens : List String) :
    parser.run (front ++ tokens) = (parser.feedAll front).run tokens := by
  rw [← reading.finish_feedAll, feedAll_append, readingBehind.finish_feedAll]

theorem IsReading.run_ne_ok
    {token : String}
    {error : SentenceError}
    {index : Nat}
    (reading : parser.IsReading)
    (stepped : step parser.position parser.intent index token = .error error) :
    parser.run (token :: tokens) ≠ .ok released := by
  rw [Ne, reading.run_eq_ok_iff]
  rintro ⟨next, recorded, advanced, -⟩
  rw [(step_eq_ok_iff index).mpr (advance?_eq_some_iff.mp advanced)] at stepped
  cases stepped

end Parser

/-- Some sentence that is accepted begins with the tokens. -/
def OpensSentence (tokens : List String) : Prop :=
  ∃ sentence released, tokens <+: tokenize sentence ∧ parseSentence sentence = .ok released

/-- Tokens that do not make the parser fail open a sentence that is accepted. -/
theorem opensSentence_of_isReading
    {tokens : List String}
    (areTokens : ∀ token ∈ tokens, IsToken token)
    (reading : (({} : Parser).feedAll tokens).IsReading) :
    OpensSentence tokens := by
  obtain ⟨completion, released, completionTokens, accepted⟩ :=
    Accepts.exists_completion reading.notFailed (({} : Parser).feedAll tokens).intent
  have cut : tokenize (" ".intercalate (tokens ++ completion)) = tokens ++ completion :=
    tokenize_intercalate_tokens (List.forall_mem_append.mpr ⟨areTokens, completionTokens⟩)
  refine ⟨" ".intercalate (tokens ++ completion), released, ?_, ?_⟩
  · rw [cut]
    exact List.prefix_append tokens completion
  · rw [parseSentence, cut, Parser.start_isReading.run_append reading]
    exact reading.run_eq_ok_iff.mpr accepted

/-- An error that names a place names the token there, behind which nothing is accepted. -/
theorem Parser.FailsBehind.refused_at_index
    {accepted tokens : List String}
    {error : SentenceError}
    {index : Nat}
    (fails : ({} : Parser).FailsBehind accepted tokens error)
    (reading : (({} : Parser).feedAll accepted).IsReading)
    (reported : error.index? = some index) :
    ∃ token, tokens[index]? = some token ∧ error.token? = some token ∧
      ∀ more released, ({} : Parser).run (tokens.take (index + 1) ++ more) ≠ .ok released := by
  cases fails with
  | ranOut => cases reported
  | @refused token rest _ stepped =>
      obtain ⟨-, sameIndex, sameToken⟩ := refusal_of_step stepped
      obtain rfl : accepted.length = index := by
        rw [sameIndex] at reported
        exact (Nat.zero_add _).symm.trans (Option.some.inj reported)
      refine ⟨token, by simp, sameToken, fun more released => ?_⟩
      have front : (accepted ++ token :: rest).take (accepted.length + 1) = accepted ++ [token] := by
        simp [List.take_append]
      rw [front, List.append_assoc, Parser.start_isReading.run_append reading]
      exact reading.run_ne_ok stepped

/--
Errors are reported at the first possible token.  The tokens in front of it open a sentence that
is accepted, and the parser stood behind them where the error says.  A token that is refused
stands at the reported place, and with it nothing is accepted, whatever follows.
-/
theorem failure_at_first_possible_token
    {text : String}
    {error : SentenceError}
    (failed : parseSentence text = .error error) :
    let tokens := tokenize text
    let accepted := tokens.take (error.acceptedCount tokens)
    OpensSentence accepted ∧ (({} : Parser).feedAll accepted).position = error.position ∧
      ∀ index ∈ error.index?, ∃ token, tokens[index]? = some token ∧ error.token? = some token ∧
        ∀ more released, ({} : Parser).run (tokens.take (index + 1) ++ more) ≠ .ok released := by
  intro tokens accepted
  obtain ⟨front, reading, fails⟩ := Parser.start_isReading.exists_failsBehind failed
  obtain ⟨sameTokens, samePosition⟩ := fails.reported
  obtain rfl : accepted = front := sameTokens
  have areTokens : ∀ token ∈ accepted, IsToken token :=
    fun token member => isToken_of_mem_tokenize (List.mem_of_mem_take member)
  exact ⟨opensSentence_of_isReading areTokens reading, samePosition.symm,
    fun index reported => fails.refused_at_index reading reported⟩

/-- A public blockchain is refused behind a private one, and another filter could follow. -/
theorem failure_at_conflicting_filter :
    let text := "for a select the cheapest private and public blockchain as default"
    let error : SentenceError :=
      .validation .filter 7 "public" (.conflictingFilters .privateChain .publicChain)
    parseSentence text = .error error ∧
      OpensSentence ["for", "a", "select", "the", "cheapest", "private", "and"] ∧
      ∀ more released, ({} : Parser).run
        (["for", "a", "select", "the", "cheapest", "private", "and", "public"] ++ more) ≠
          .ok released := by
  intro text error
  have failed : parseSentence text = .error error := by decide +kernel
  have cut : tokenize text = ["for", "a", "select", "the", "cheapest", "private", "and", "public",
      "blockchain", "as", "default"] := by decide +kernel
  obtain ⟨opens, -, refused⟩ := failure_at_first_possible_token failed
  rw [cut] at opens refused
  obtain ⟨token, -, -, nothing⟩ := refused 7 rfl
  exact ⟨failed, opens, nothing⟩

end IntentPolicy
