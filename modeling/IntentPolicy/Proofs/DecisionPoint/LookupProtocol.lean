import IntentPolicy.DecisionPoint.Client
import IntentPolicy.Proofs.DecisionPoint.PolicyDocument
import IntentPolicy.Proofs.Reconciliation.Action

namespace IntentPolicy

/-!
# What is sent to save a policy

A transport of which every request is written down shows what a client sends.  The requests of
one call are sent in order up to the first that fails, and a bounded policy is posted only behind
a lookup of its user, who is given a baseline policy if the decision point does not know them.
-/

/-- A request to a server with its answer, if one came. -/
structure HttpExchange where
  request : HttpRequest
  answer : Option HttpResponse

namespace HttpExchange

/-- The answer that settles the request. -/
def settled? (exchange : HttpExchange) : Option HttpResponse :=
  exchange.answer.filter (·.isFinal)

/-- There is nothing under the address. -/
def isMissing (exchange : HttpExchange) : Bool :=
  exchange.settled?.any (·.status == 404)

/-- The identifier that a policy was saved under. -/
def savedId? (exchange : HttpExchange) : Option String :=
  (exchange.settled?.filter (·.status == 201)).bind fun response =>
    response.content?.bind Answer.savedPolicyId?

/-- What was asked for was done: a user was looked up, a policy was saved, or it is gone. -/
def Succeeds (exchange : HttpExchange) : Prop :=
  match exchange.request.method with
  | .get => exchange.settled?.isSome = true
  | .post => exchange.savedId?.isSome = true
  | .delete => ∃ response ∈ exchange.settled?, response.isSuccess = true ∨ response.status = 404

/-- Why what was asked for was not done. -/
inductive Fails (exchange : HttpExchange) : EnforcementError → Prop
  | unanswered {reason : String}
      (unsettled : exchange.settled? = none) :
      Fails exchange (.transport reason)
  | notCreated {response : HttpResponse}
      (posts : exchange.request.method = .post)
      (settled : exchange.settled? = some response)
      (refused : response.status ≠ 201) :
      Fails exchange (DecisionPoint.refusal response)
  | undecoded {reason : String} {response : HttpResponse}
      (posts : exchange.request.method = .post)
      (settled : exchange.settled? = some response)
      (created : response.status = 201)
      (noIdentifier : exchange.savedId? = none) :
      Fails exchange (.decode reason)
  | notDeleted {response : HttpResponse}
      (deletes : exchange.request.method = .delete)
      (settled : exchange.settled? = some response)
      (refused : ¬ (response.isSuccess = true ∨ response.status = 404)) :
      Fails exchange (DecisionPoint.refusal response)

/-- The answer that a policy was created names its identifier. -/
theorem savedId?_of_created
    {exchange : HttpExchange}
    {response : HttpResponse}
    (settled : exchange.settled? = some response)
    (created : response.status = 201) :
    exchange.savedId? = response.content?.bind Answer.savedPolicyId? := by
  rw [savedId?, settled, Option.filter_some_pos (by simpa using created)]
  rfl

/-- What failed was not done. -/
theorem Fails.not_succeeds
    {exchange : HttpExchange}
    {error : EnforcementError}
    (fails : exchange.Fails error) :
    ¬ exchange.Succeeds := by
  unfold Succeeds
  cases fails with
  | unanswered unsettled => cases exchange.request.method <;> simp [savedId?, unsettled]
  | notCreated posts settled refused => simp [posts, savedId?, settled, refused]
  | undecoded posts settled created noIdentifier => simp [posts, noIdentifier]
  | notDeleted deletes settled refused => simpa [deletes, settled] using refused

end HttpExchange

/-- A state with the exchanges that have led to it. -/
structure Overheard (State : Type) where
  state : State
  exchanges : List HttpExchange := []

/-- A transport of which every request is written down with its answer. -/
def Transport.overheard {State : Type} (transport : Transport State) :
    Transport (Overheard State) := fun request before =>
  let (answer, after) := transport request before.state
  (answer, ⟨after, before.exchanges ++ [⟨request, answer⟩]⟩)

namespace DecisionPoint

variable {State : Type}

/-- A client of which every request is written down. -/
def overheard (client : DecisionPoint State) : DecisionPoint (Overheard State) where
  baseUrl := client.baseUrl
  token := client.token
  windows := client.windows
  transport := client.transport.overheard

/-- The client can put a request to a server at all. -/
structure CanSend (client : DecisionPoint State) (request : HttpRequest) : Prop where
  token : ∀ token ∈ client.token, isHeaderValue token = true
  requestable : request.url.isRequestable = true

/-- The request to look a user up. -/
def lookup (client : DecisionPoint State) (user : String) : HttpRequest :=
  ⟨.get, client.endpoint ["policies", user], client.authorization, none⟩

/-- The request to save a policy under an identifier. -/
def posting (client : DecisionPoint State) (policy : Policy) (externalId : String) : HttpRequest :=
  ⟨.post, client.endpoint ["api", "policies"], client.authorization,
    some (PolicyPayload.ofPolicy client.windows externalId policy).json⟩

/-- A request that posts a policy under an identifier: its document tells both. -/
structure Posts (client : DecisionPoint State) (request : HttpRequest) (policy : Policy)
    (externalId : String) : Prop where
  method : request.method = .post
  url : request.url = client.endpoint ["api", "policies"]
  authorization : request.authorization = client.authorization
  body : ∃ document, request.body = some document ∧
    document.Tells client.windows externalId policy

theorem posts_posting
    (client : DecisionPoint State)
    (policy : Policy)
    (externalId : String) :
    client.Posts (client.posting policy externalId) policy externalId :=
  ⟨rfl, rfl, rfl, _, rfl, PolicyPayload.tells_json client.windows externalId policy⟩

/--
The requests that saving a policy takes.  The user of a bounded policy is looked up first, and
one who is unknown is given a baseline policy before the policy itself is posted.
-/
def savingRequests (client : DecisionPoint State) (policy : Policy) (externalId : String)
    (isUnknown : Bool) : List HttpRequest :=
  if policy.isDefault then [client.posting policy externalId]
  else if isUnknown then
    [client.lookup policy.user, client.posting (.baselineFor policy.user) "",
      client.posting policy externalId]
  else [client.lookup policy.user, client.posting policy externalId]

/-- The first of the exchanges is answered with nothing being there. -/
def opensMissing (exchanges : List HttpExchange) : Bool :=
  exchanges.head?.any HttpExchange.isMissing

/-- The identifier that the last of the exchanges saved a policy under. -/
def lastSavedId? (exchanges : List HttpExchange) : Option String :=
  exchanges.getLast?.bind HttpExchange.savedId?

/--
Requests are sent one after the other up to the first that fails, with the error that it fails
with, if one does.  Nothing is sent behind it, and it is not sent itself if the client cannot.
-/
inductive SentInOrder (client : DecisionPoint State) :
    List HttpRequest → List HttpExchange → Option EnforcementError → Prop
  | nil : SentInOrder client [] [] none
  | sent (exchange : HttpExchange) {rest : List HttpRequest} {exchanges : List HttpExchange}
      {failure : Option EnforcementError}
      (sendable : client.CanSend exchange.request)
      (succeeds : exchange.Succeeds)
      (behind : SentInOrder client rest exchanges failure) :
      SentInOrder client (exchange.request :: rest) (exchange :: exchanges) failure
  | failed (exchange : HttpExchange) {rest : List HttpRequest} {error : EnforcementError}
      (sendable : client.CanSend exchange.request)
      (fails : exchange.Fails error) :
      SentInOrder client (exchange.request :: rest) [exchange] (some error)
  | unsendable {request : HttpRequest} {rest : List HttpRequest} {reason : String}
      (cannot : ¬ client.CanSend request) :
      SentInOrder client (request :: rest) [] (some (.transport reason))

namespace SentInOrder

variable {client : DecisionPoint State} {requests : List HttpRequest}
  {exchanges : List HttpExchange} {failure : Option EnforcementError}

/-- What is sent is a front of the requests, and all of them exactly if none fails. -/
theorem isPrefix
    (inOrder : client.SentInOrder requests exchanges failure) :
    exchanges.map (·.request) <+: requests ∧
      (failure = none ↔
        exchanges.map (·.request) = requests ∧ ∀ exchange ∈ exchanges, exchange.Succeeds) := by
  induction inOrder with
  | nil => simp
  | sent exchange sendable succeeds behind inductionHypothesis =>
      obtain ⟨front, noneFails⟩ := inductionHypothesis
      refine ⟨List.cons_prefix_cons.mpr ⟨rfl, front⟩, ?_⟩
      rw [noneFails]
      simp [succeeds]
  | failed exchange sendable fails =>
      refine ⟨List.cons_prefix_cons.mpr ⟨rfl, List.nil_prefix⟩, ?_⟩
      simp [fails.not_succeeds]
  | unsendable cannot => simp

/-- Only the last exchange can have failed. -/
theorem succeeds_of_mem_dropLast
    {exchange : HttpExchange}
    (inOrder : client.SentInOrder requests exchanges failure)
    (member : exchange ∈ exchanges.dropLast) :
    exchange.Succeeds := by
  induction inOrder with
  | nil => cases member
  | failed => cases member
  | unsendable => cases member
  | @sent first rest behind failure sendable succeeds inOrder inductionHypothesis =>
      cases behind with
      | nil => cases member
      | cons second others =>
          rw [List.dropLast_cons_cons] at member
          rcases List.mem_cons.mp member with rfl | inRest
          · exact succeeds
          · exact inductionHypothesis inRest

end SentInOrder

variable {client : DecisionPoint State} {requests : List HttpRequest}
  {exchanges more : List HttpExchange} {failure : Option EnforcementError}
  {error : EnforcementError}

/-- Behind requests that went through others are sent in order. -/
theorem SentInOrder.append
    {rest : List HttpRequest}
    (inOrder : client.SentInOrder requests exchanges none)
    (behind : client.SentInOrder rest more failure) :
    client.SentInOrder (requests ++ rest) (exchanges ++ more) failure := by
  generalize finished : (none : Option EnforcementError) = outcome at inOrder
  induction inOrder with
  | nil => exact behind
  | sent exchange sendable succeeds _ inductionHypothesis =>
      exact .sent exchange sendable succeeds (inductionHypothesis finished)
  | failed => cases finished
  | unsendable => cases finished

/-- Behind a request that failed nothing is sent. -/
theorem SentInOrder.append_failed
    (inOrder : client.SentInOrder requests exchanges (some error))
    (rest : List HttpRequest) :
    client.SentInOrder (requests ++ rest) exchanges (some error) := by
  generalize stopped : some error = outcome at inOrder
  induction inOrder with
  | nil => cases stopped
  | sent exchange sendable succeeds _ inductionHypothesis =>
      exact .sent exchange sendable succeeds (inductionHypothesis stopped)
  | failed exchange sendable fails => exact .failed exchange sendable fails
  | unsendable cannot => exact .unsendable cannot

section Sends

variable {Error Value Result : Type}

/-- Whatever has been sent before, an action answers and adds exchanges as the outcome says. -/
def Sends (action : Action (Overheard State) Error Value)
    (outcome : Except Error Value → List HttpExchange → Prop) : Prop :=
  ∀ before, ∃ exchanges, (action.run before).2.exchanges = before.exchanges ++ exchanges ∧
    outcome (action.run before).1 exchanges

variable {action : Action (Overheard State) Error Value}
  {next : Value → Action (Overheard State) Error Result}
  {outcome : Except Error Value → List HttpExchange → Prop}
  {whole : Except Error Result → List HttpExchange → Prop}

theorem sends_pure
    {value : Value}
    (told : outcome (.ok value) []) :
    Sends (pure value : Action (Overheard State) Error Value) outcome :=
  fun before => ⟨[], (List.append_nil before.exchanges).symm, told⟩

theorem sends_throw
    {error : Error}
    (told : outcome (.error error) []) :
    Sends (throw error : Action (Overheard State) Error Value) outcome :=
  fun before => ⟨[], (List.append_nil before.exchanges).symm, told⟩

theorem Sends.imp
    {weaker : Except Error Value → List HttpExchange → Prop}
    (sends : Sends action outcome)
    (implies : ∀ result exchanges, outcome result exchanges → weaker result exchanges) :
    Sends action weaker := by
  intro before
  obtain ⟨exchanges, added, told⟩ := sends before
  exact ⟨exchanges, added, implies _ _ told⟩

/-- What an action sends stands in front of what is sent behind it, unless it fails. -/
theorem Sends.bind
    (sends : Sends action outcome)
    (fails : ∀ error exchanges, outcome (.error error) exchanges → whole (.error error) exchanges)
    (goesOn : ∀ value exchanges, outcome (.ok value) exchanges →
      Sends (next value) fun result more => whole result (exchanges ++ more)) :
    Sends (action >>= next) whole := by
  intro before
  obtain ⟨exchanges, added, told⟩ := sends before
  rcases ran : action.run before with ⟨error | value, reached⟩
  · rw [ran] at added told
    rw [Action.run_bind_error next ran]
    exact ⟨exchanges, added, fails error exchanges told⟩
  · rw [ran] at added told
    rw [Action.run_bind_ok next ran]
    obtain ⟨more, addedMore, toldWhole⟩ := goesOn value exchanges told reached
    refine ⟨exchanges ++ more, ?_, toldWhole⟩
    rw [addedMore, added, List.append_assoc]

end Sends

/-- All that sending one request can come to. -/
inductive SendRun (client : DecisionPoint State) (request : HttpRequest) :
    Except EnforcementError HttpResponse → List HttpExchange → Prop
  | unsendable {reason : String}
      (cannot : ¬ client.CanSend request) :
      SendRun client request (.error (.transport reason)) []
  | unanswered {reason : String} {answer : Option HttpResponse}
      (sendable : client.CanSend request)
      (unsettled : HttpExchange.settled? ⟨request, answer⟩ = none) :
      SendRun client request (.error (.transport reason)) [⟨request, answer⟩]
  | settled {answer : Option HttpResponse} {response : HttpResponse}
      (sendable : client.CanSend request)
      (isSettled : HttpExchange.settled? ⟨request, answer⟩ = some response) :
      SendRun client request (.ok response) [⟨request, answer⟩]

/-- A request that is not answered for good fails, sent or not. -/
theorem SendRun.failed
    {request : HttpRequest}
    (run : client.SendRun request (.error error) exchanges)
    (rest : List HttpRequest) :
    client.SentInOrder (request :: rest) exchanges (some error) := by
  cases run with
  | unsendable cannot => exact .unsendable cannot
  | unanswered sendable unsettled =>
      exact SentInOrder.failed ⟨request, _⟩ sendable (.unanswered unsettled)

/-- What a transport answers is written down. -/
theorem sends_transport
    {Error : Type}
    (transport : Transport State)
    (request : HttpRequest) :
    Sends (liftM (transport.overheard request) :
        Action (Overheard State) Error (Option HttpResponse))
      fun result exchanges => ∃ answer, result = .ok answer ∧ exchanges = [⟨request, answer⟩] :=
  fun before => ⟨[⟨request, (transport request before.state).1⟩], rfl, _, rfl, rfl⟩

/-- A request is refused before it is sent, or handed to the transport. -/
theorem send_cases
    (client : DecisionPoint State)
    (method : HttpMethod)
    (segments : List String)
    (body : Option Json) :
    let request : HttpRequest := ⟨method, client.endpoint segments, client.authorization, body⟩
    (¬ client.CanSend request ∧
      ∃ reason, client.send method segments body = throw (.transport reason)) ∨
    (client.CanSend request ∧ ∃ reason, client.send method segments body =
      liftM (client.transport request) >>= fun answer =>
        match answer.filter (·.isFinal) with
        | some response => pure response
        | none => throw (.transport reason)) := by
  intro request
  unfold send
  cases badToken : client.token.any (!isHeaderValue ·) with
  | true =>
      obtain ⟨token, isToken, noHeader⟩ := (Option.any_eq_true _ _).mp badToken
      refine Or.inl ⟨fun sendable => ?_, _, if_pos rfl⟩
      simp [sendable.token token isToken] at noHeader
  | false =>
      rw [if_neg Bool.false_ne_true]
      cases requestable : request.url.isRequestable with
      | false =>
          refine Or.inl ⟨fun sendable => ?_, _, if_pos rfl⟩
          simp [sendable.requestable] at requestable
      | true =>
          have sendable : client.CanSend request := by
            refine ⟨fun token isToken => ?_, requestable⟩
            simpa using (Option.any_eq_false _ _).mp badToken token isToken
          exact Or.inr ⟨sendable, _, if_neg (by decide)⟩

/-- Sending a request does what one of the cases says. -/
theorem sends_send
    (client : DecisionPoint State)
    (method : HttpMethod)
    (segments : List String)
    (body : Option Json) :
    Sends (client.overheard.send method segments body)
      (client.SendRun ⟨method, client.endpoint segments, client.authorization, body⟩) := by
  rcases client.overheard.send_cases method segments body with
    ⟨cannot, reason, sendEq⟩ | ⟨sendable, reason, sendEq⟩
  · rw [sendEq]
    exact sends_throw (.unsendable fun sendable => cannot ⟨sendable.1, sendable.2⟩)
  · rw [sendEq]
    have sendableHere : client.CanSend
        ⟨method, client.endpoint segments, client.authorization, body⟩ :=
      ⟨sendable.1, sendable.2⟩
    refine (sends_transport client.transport _).bind nofun ?_
    rintro answer exchanges ⟨_, ⟨⟩, rfl⟩
    cases isSettled : answer.filter (·.isFinal) with
    | some response => exact sends_pure (.settled sendableHere isSettled)
    | none => exact sends_throw (.unanswered sendableHere isSettled)

/--
All that a call can come to.  Its requests may depend on how the exchanges open, and what it tells
when all of them went through is found in the exchanges.
-/
inductive CallRun {Value : Type} (client : DecisionPoint State)
    (requests : List HttpExchange → List HttpRequest) (told : List HttpExchange → Option Value) :
    Except EnforcementError Value → List HttpExchange → Prop
  | failed {exchanges : List HttpExchange} {error : EnforcementError}
      (inOrder : client.SentInOrder (requests exchanges) exchanges (some error)) :
      CallRun client requests told (.error error) exchanges
  | finished {exchanges : List HttpExchange} {value : Value}
      (inOrder : client.SentInOrder (requests exchanges) exchanges none)
      (isTold : told exchanges = some value) :
      CallRun client requests told (.ok value) exchanges

/-- A call that makes one request. -/
theorem CallRun.of_exchange
    {Value : Type}
    {told : List HttpExchange → Option Value}
    {value : Value}
    (exchange : HttpExchange)
    (sendable : client.CanSend exchange.request)
    (succeeds : exchange.Succeeds)
    (isTold : told [exchange] = some value) :
    client.CallRun (fun _ => [exchange.request]) told (.ok value) [exchange] :=
  .finished (.sent exchange sendable succeeds .nil) isTold

/-- Posting a policy tells the identifier that it is saved under. -/
theorem sends_post
    (client : DecisionPoint State)
    (policy : Policy)
    (externalId : String) :
    Sends (client.overheard.post policy externalId)
      (client.CallRun (fun _ => [client.posting policy externalId]) lastSavedId?) := by
  have sendsPosting : Sends (client.overheard.send .post ["api", "policies"]
        (some (PolicyPayload.ofPolicy client.windows externalId policy).json))
      (client.SendRun (client.posting policy externalId)) :=
    client.sends_send .post ["api", "policies"] _
  refine sendsPosting.bind (fun error exchanges run => .failed (run.failed []))
    fun response exchanges run => ?_
  cases run with
  | @settled answer _ sendable isSettled =>
      let exchange : HttpExchange := ⟨client.posting policy externalId, answer⟩
      by_cases created : response.status = 201
      · have savedId := HttpExchange.savedId?_of_created isSettled created
        rw [if_neg fun refused => refused created]
        cases given : response.content?.bind Answer.savedPolicyId? with
        | some id =>
            rw [given] at savedId
            exact sends_pure (.of_exchange exchange sendable
              (Option.isSome_iff_exists.mpr ⟨id, savedId⟩) savedId)
        | none =>
            rw [given] at savedId
            exact sends_throw (.failed (.failed exchange sendable
              (.undecoded rfl isSettled created savedId)))
      · rw [if_pos created]
        exact sends_throw (.failed (.failed exchange sendable
          (.notCreated rfl isSettled created)))

/-- What has to be sent before a policy is posted. -/
def introduction (client : DecisionPoint State) (policy : Policy) (isUnknown : Bool) :
    List HttpRequest :=
  if policy.isDefault then []
  else if isUnknown then
    [client.lookup policy.user, client.posting (.baselineFor policy.user) ""]
  else [client.lookup policy.user]

theorem savingRequests_eq
    (client : DecisionPoint State)
    (policy : Policy)
    (externalId : String)
    (isUnknown : Bool) :
    client.savingRequests policy externalId isUnknown =
      client.introduction policy isUnknown ++ [client.posting policy externalId] := by
  unfold savingRequests introduction
  split
  · rfl
  · split <;> rfl

theorem opensMissing_cons
    {exchange : HttpExchange}
    {response : HttpResponse}
    (settled : exchange.settled? = some response)
    (behind : List HttpExchange) :
    opensMissing (exchange :: behind) = (response.status == 404) := by
  rw [opensMissing, List.head?_cons, Option.any_some, HttpExchange.isMissing, settled,
    Option.any_some]

/-- The user of a bounded policy is looked up, and given a baseline policy if unknown. -/
theorem sends_ensureUserKnown
    (client : DecisionPoint State)
    (policy : Policy) :
    Sends (client.overheard.ensureUserKnown policy)
      (client.CallRun (fun exchanges => client.introduction policy (opensMissing exchanges))
        fun _ => some ()) := by
  unfold ensureUserKnown introduction
  cases isDefault : policy.isDefault with
  | true => exact sends_pure (.finished .nil rfl)
  | false =>
      have sendsLookup : Sends (client.overheard.send .get ["policies", policy.user] none)
          (client.SendRun (client.lookup policy.user)) :=
        client.sends_send .get ["policies", policy.user] none
      refine sendsLookup.bind (fun error exchanges run => .failed ?_) ?_
      · rw [if_neg Bool.false_ne_true]
        split
        · exact run.failed _
        · exact run.failed _
      · intro response exchanges run
        cases run with
        | @settled answer _ sendable isSettled =>
            let found : HttpExchange := ⟨client.lookup policy.user, answer⟩
            have succeeds : found.Succeeds := Option.isSome_iff_exists.mpr ⟨response, isSettled⟩
            by_cases missing : response.status = 404
            · have unknown (more : List HttpExchange) : opensMissing (found :: more) = true := by
                rw [opensMissing_cons isSettled, missing]
                rfl
              rw [if_pos missing]
              refine (client.sends_post (.baselineFor policy.user) "").bind ?_ ?_
              · rintro error more ⟨inOrder⟩
                refine .failed ?_
                rw [List.singleton_append, unknown]
                exact .sent found sendable succeeds inOrder
              · rintro id more (_ | ⟨inOrder, -⟩)
                refine sends_pure (.finished ?_ rfl)
                rw [List.append_nil, List.singleton_append, unknown]
                exact .sent found sendable succeeds inOrder
            · rw [if_neg missing]
              refine sends_pure (.finished ?_ rfl)
              rw [List.append_nil, opensMissing_cons isSettled, beq_false_of_ne missing]
              exact .sent found sendable succeeds .nil

/-- What is sent behind the introduction does not bear on it. -/
theorem SentInOrder.introduction_append
    {policy : Policy}
    (inOrder : client.SentInOrder (client.introduction policy (opensMissing exchanges))
      exchanges none)
    (more : List HttpExchange) :
    client.introduction policy (opensMissing (exchanges ++ more)) =
      client.introduction policy (opensMissing exchanges) := by
  cases exchanges with
  | cons first rest => rfl
  | nil =>
      cases isDefault : policy.isDefault with
      | true => rw [introduction, introduction, if_pos isDefault, if_pos isDefault]
      | false =>
          obtain ⟨allSent, -⟩ := inOrder.isPrefix.2.mp rfl
          rw [introduction, isDefault] at allSent
          cases allSent

/-- The last of the exchanges is found behind others. -/
theorem lastSavedId?_append
    {id : String}
    (exchanges : List HttpExchange)
    (isTold : lastSavedId? more = some id) :
    lastSavedId? (exchanges ++ more) = some id := by
  obtain ⟨last, isLast, saved⟩ := Option.bind_eq_some_iff.mp isTold
  rw [lastSavedId?, List.getLast?_append, isLast]
  exact saved

/-- Saving a policy introduces its user and posts it, and tells its identifier. -/
theorem sends_save
    (client : DecisionPoint State)
    (policy : Policy)
    (externalId : String) :
    Sends (client.overheard.save policy externalId)
      (client.CallRun (fun exchanges =>
        client.savingRequests policy externalId (opensMissing exchanges)) lastSavedId?) := by
  unfold save
  simp only [savingRequests_eq]
  refine (client.sends_ensureUserKnown policy).bind ?_ ?_
  · rintro error exchanges ⟨inOrder⟩
    exact .failed (inOrder.append_failed _)
  · rintro _ exchanges run
    cases run with
    | finished inOrder _ =>
    refine (client.sends_post policy externalId).imp fun result more run => ?_
    cases run with
    | failed behind =>
        refine .failed ?_
        rw [inOrder.introduction_append]
        exact inOrder.append behind
    | finished behind isTold =>
        refine .finished ?_ ?_
        · rw [inOrder.introduction_append]
          exact inOrder.append behind
        · exact lastSavedId?_append exchanges isTold

/--
What a call that saves a policy sends: a front of the requests that this takes, of which only the
last one can have failed, and all of them unless the call ends with a failure.
-/
structure Saves (client : DecisionPoint State) (policy : Policy) (externalId : String)
    (exchanges : List HttpExchange) (failure : Option EnforcementError) : Prop where
  inOrder : client.SentInOrder (client.savingRequests policy externalId (opensMissing exchanges))
    exchanges failure
  front : exchanges.map (·.request) <+:
    client.savingRequests policy externalId (opensMissing exchanges)
  succeeding : ∀ exchange ∈ exchanges.dropLast, exchange.Succeeds
  finished_iff : failure = none ↔
    exchanges.map (·.request) = client.savingRequests policy externalId (opensMissing exchanges) ∧
      ∀ exchange ∈ exchanges, exchange.Succeeds

theorem Saves.of_inOrder
    {policy : Policy}
    {externalId : String}
    (inOrder : client.SentInOrder
      (client.savingRequests policy externalId (opensMissing exchanges)) exchanges failure) :
    client.Saves policy externalId exchanges failure :=
  ⟨inOrder, inOrder.isPrefix.1, fun _ => inOrder.succeeds_of_mem_dropLast, inOrder.isPrefix.2⟩

/-- Each of the requests for saving is the lookup, or posts the policy or the baseline policy. -/
theorem posts_of_mem_savingRequests
    {policy : Policy}
    {externalId : String}
    {isUnknown : Bool}
    {request : HttpRequest}
    (member : request ∈ client.savingRequests policy externalId isUnknown)
    (posts : request.method = .post) :
    client.Posts request policy externalId ∨
      client.Posts request (.baselineFor policy.user) "" := by
  rw [savingRequests_eq, List.mem_append, List.mem_singleton, introduction] at member
  rcases member with introduces | rfl
  · split at introduces
    · cases introduces
    · split at introduces
      · rcases List.mem_cons.mp introduces with rfl | behind
        · cases posts
        · obtain rfl := List.mem_singleton.mp behind
          exact Or.inr (client.posts_posting _ _)
      · obtain rfl := List.mem_singleton.mp introduces
        cases posts
  · exact Or.inl (client.posts_posting _ _)

/-- All that saving a policy posts is the policy under its identifier, and the baseline policy. -/
theorem Saves.posts
    {policy : Policy}
    {externalId : String}
    {exchange : HttpExchange}
    (saves : client.Saves policy externalId exchanges failure)
    (member : exchange ∈ exchanges)
    (posts : exchange.request.method = .post) :
    client.Posts exchange.request policy externalId ∨
      client.Posts exchange.request (.baselineFor policy.user) "" :=
  posts_of_mem_savingRequests (saves.front.subset (List.mem_map_of_mem member)) posts

/-- A policy that was saved has been posted under its identifier. -/
theorem Saves.exists_posting
    {policy : Policy}
    {externalId : String}
    (saves : client.Saves policy externalId exchanges none) :
    ∃ exchange ∈ exchanges, exchange.request = client.posting policy externalId := by
  have allSent := (saves.finished_iff.mp rfl).1
  rw [← List.mem_map, allSent, savingRequests_eq]
  exact List.mem_append_right _ (List.mem_singleton_self _)

/-- Creating a policy saves it without an identifier, and takes none that is empty. -/
theorem sends_create
    (client : DecisionPoint State)
    (policy : Policy) :
    Sends (client.overheard.enforcement.create policy) fun result exchanges =>
      ∃ failure, client.Saves policy "" exchanges failure ∧
        (∀ error ∈ failure, result = .error error) ∧
        ∀ id, result = .ok id ↔ failure = none ∧ lastSavedId? exchanges = some id ∧ id ≠ "" := by
  refine (client.sends_save policy "").bind ?_ ?_
  · rintro error exchanges ⟨inOrder⟩
    exact ⟨some error, .of_inOrder inOrder, by simp, by simp⟩
  · rintro id exchanges (_ | ⟨inOrder, isTold⟩)
    rw [← List.append_nil exchanges] at inOrder isTold
    split
    · next empty =>
        refine sends_throw ⟨none, .of_inOrder inOrder, nofun, fun other => ?_⟩
        rw [isTold]
        simp [String.isEmpty_iff.mp empty]
    · next notEmpty =>
        have isName : id ≠ "" := fun isEmpty => notEmpty (String.isEmpty_iff.mpr isEmpty)
        refine sends_pure ⟨none, .of_inOrder inOrder, nofun, fun other => ?_⟩
        rw [isTold, Except.ok.injEq, Option.some.injEq]
        exact ⟨fun same => ⟨rfl, same, same ▸ isName⟩, fun told => told.2.1⟩

/-- Updating a policy saves it under its identifier. -/
theorem sends_update
    (client : DecisionPoint State)
    (policy : Policy)
    (externalId : String) :
    Sends (client.overheard.enforcement.update externalId policy) fun result exchanges =>
      ∃ failure, client.Saves policy externalId exchanges failure ∧
        (∀ error ∈ failure, result = .error error) ∧ (result = .ok () ↔ failure = none) := by
  refine (client.sends_save policy externalId).bind ?_ ?_
  · rintro error exchanges ⟨inOrder⟩
    exact ⟨some error, .of_inOrder inOrder, by simp, by simp⟩
  · rintro id exchanges (_ | ⟨inOrder, -⟩)
    rw [← List.append_nil exchanges] at inOrder
    exact sends_pure ⟨none, .of_inOrder inOrder, nofun, iff_of_true rfl rfl⟩

section Unheard

variable {Value Result : Type}

/-- An action does what another one does whose exchanges are not written down. -/
def DoesUnheard (heard : Action (Overheard State) EnforcementError Value)
    (unheard : Action State EnforcementError Value) : Prop :=
  ∀ before, unheard.run before.state = ((heard.run before).1, (heard.run before).2.state)

variable {heard : Action (Overheard State) EnforcementError Value}
  {unheard : Action State EnforcementError Value}
  {next : Value → Action (Overheard State) EnforcementError Result}
  {nextUnheard : Value → Action State EnforcementError Result}

theorem DoesUnheard.bind
    (first : DoesUnheard heard unheard)
    (behind : ∀ value, DoesUnheard (next value) (nextUnheard value)) :
    DoesUnheard (heard >>= next) (unheard >>= nextUnheard) := by
  intro before
  rw [Action.run_bind, Action.run_bind, first before]
  rcases heard.run before with ⟨error | value, reached⟩
  · rfl
  · exact behind value reached

theorem DoesUnheard.ite
    {condition : Prop}
    [Decidable condition]
    {otherHeard : Action (Overheard State) EnforcementError Value}
    {otherUnheard : Action State EnforcementError Value}
    (holds : DoesUnheard heard unheard)
    (fails : DoesUnheard otherHeard otherUnheard) :
    DoesUnheard (if condition then heard else otherHeard)
      (if condition then unheard else otherUnheard) := by
  split
  · exact holds
  · exact fails

theorem doesUnheard_pure
    (value : Value) :
    DoesUnheard (pure value : Action (Overheard State) EnforcementError Value) (pure value) :=
  fun _ => rfl

theorem doesUnheard_throw
    (error : EnforcementError) :
    DoesUnheard (throw error : Action (Overheard State) EnforcementError Value) (throw error) :=
  fun _ => rfl

theorem doesUnheard_send
    (client : DecisionPoint State)
    (method : HttpMethod)
    (segments : List String)
    (body : Option Json) :
    DoesUnheard (client.overheard.send method segments body)
      (client.send method segments body) := by
  refine .ite (doesUnheard_throw _) (.ite (doesUnheard_throw _) ?_)
  refine DoesUnheard.bind (fun _ => rfl) fun answer => ?_
  cases answer.filter (·.isFinal) with
  | some response => exact doesUnheard_pure response
  | none => exact doesUnheard_throw _

theorem doesUnheard_post
    (client : DecisionPoint State)
    (policy : Policy)
    (externalId : String) :
    DoesUnheard (client.overheard.post policy externalId) (client.post policy externalId) := by
  refine (client.doesUnheard_send _ _ _).bind fun response => .ite (doesUnheard_throw _) ?_
  cases response.content?.bind Answer.savedPolicyId? with
  | some id => exact doesUnheard_pure id
  | none => exact doesUnheard_throw _

theorem doesUnheard_save
    (client : DecisionPoint State)
    (policy : Policy)
    (externalId : String) :
    DoesUnheard (client.overheard.save policy externalId) (client.save policy externalId) := by
  refine DoesUnheard.bind (.ite ?_ (doesUnheard_pure _)) fun _ => client.doesUnheard_post _ _
  refine (client.doesUnheard_send _ _ _).bind fun response => .ite ?_ (doesUnheard_pure _)
  exact (client.doesUnheard_post _ _).bind fun _ => doesUnheard_pure _

theorem doesUnheard_create
    (client : DecisionPoint State)
    (policy : Policy) :
    DoesUnheard (client.overheard.enforcement.create policy) (client.enforcement.create policy) :=
  (client.doesUnheard_save policy "").bind fun id =>
    .ite (doesUnheard_throw _) (doesUnheard_pure id)

theorem doesUnheard_update
    (client : DecisionPoint State)
    (policy : Policy)
    (externalId : String) :
    DoesUnheard (client.overheard.enforcement.update externalId policy)
      (client.enforcement.update externalId policy) :=
  (client.doesUnheard_save policy externalId).bind fun _ => doesUnheard_pure ()

end Unheard

end DecisionPoint

/--
Whatever a server answers, a policy is created and updated by sending the requests that saving it
takes, in order and up to the first that fails: a default policy is posted at once, any other one
behind a lookup of its user, and behind a baseline policy as well if that is answered with 404.
What is posted is a document that tells the policy and its identifier.  The call succeeds exactly
if every request of the sequence was sent and succeeded and, for a creation, the identifier that
came last is not empty.
-/
theorem saving_follows_lookup_protocol
    {State : Type}
    (client : DecisionPoint State)
    (policy : Policy)
    (externalId : String)
    (state : State) :
    (∀ saved id, client.Posts (client.posting saved id) saved id) ∧
    (let run := (client.overheard.enforcement.create policy).run ⟨state, []⟩
     (client.enforcement.create policy).run state = (run.1, run.2.state) ∧
      ∃ failure, client.Saves policy "" run.2.exchanges failure ∧
        (∀ error ∈ failure, run.1 = .error error) ∧
        ∀ id, run.1 = .ok id ↔
          failure = none ∧ DecisionPoint.lastSavedId? run.2.exchanges = some id ∧ id ≠ "") ∧
    let run := (client.overheard.enforcement.update externalId policy).run ⟨state, []⟩
    (client.enforcement.update externalId policy).run state = (run.1, run.2.state) ∧
      ∃ failure, client.Saves policy externalId run.2.exchanges failure ∧
        (∀ error ∈ failure, run.1 = .error error) ∧ (run.1 = .ok () ↔ failure = none) := by
  refine ⟨client.posts_posting, ?_, ?_⟩
  · intro run
    obtain ⟨exchanges, added, saves⟩ := client.sends_create policy ⟨state, []⟩
    obtain rfl : run.2.exchanges = exchanges := added
    exact ⟨client.doesUnheard_create policy ⟨state, []⟩, saves⟩
  · intro run
    obtain ⟨exchanges, added, saves⟩ := client.sends_update policy externalId ⟨state, []⟩
    obtain rfl : run.2.exchanges = exchanges := added
    exact ⟨client.doesUnheard_update policy externalId ⟨state, []⟩, saves⟩

end IntentPolicy
