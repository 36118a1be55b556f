import IntentPolicy.DecisionPoint.Answer
import IntentPolicy.DecisionPoint.Payload
import IntentPolicy.Reconciliation.Enforcement
import IntentPolicy.Text.Blank
import IntentPolicy.Web.Http
import IntentPolicy.Web.UrlReading

namespace IntentPolicy

/-!
# The client of the decision point

Enforcement by a policy decision point behind HTTP.  The decision point refuses bounded
policies of users that it has never seen, so such a user is looked up first and, when
unknown, given a baseline policy.
-/

/-- A base URL that cannot be used. -/
structure BaseUrlError where
  url : String
  reason : String
  deriving Repr, DecidableEq

/-- The wording of the error. -/
def BaseUrlError.message (error : BaseUrlError) : String :=
  s!"invalid pdp base url '{error.url}': {error.reason}"

/-- Read a base URL, which has to be one that segments can be appended to. -/
def readBaseUrl (text : String) : Except BaseUrlError Url :=
  match Url.ofText text with
  | .error error => .error ⟨text, error.message⟩
  | .ok url => if url.hasSegments then .ok url else .error ⟨text, "url cannot carry a path"⟩

/-- What the client works with. -/
structure DecisionPoint (State : Type) where
  baseUrl : Url
  token : Option String
  windows : TimeWindows
  transport : Transport State

namespace DecisionPoint

variable {State : Type}

/-- The connection failed for a reason. -/
def unreachable {Value : Type} (reason : String) : Action State EnforcementError Value :=
  throw (.transport s!"connection to pdp failed: {reason}")

/-- The URL of a resource below the base; a user whom the base names is not sent along. -/
def endpoint (client : DecisionPoint State) (segments : List String) : Url :=
  let url := client.baseUrl.appending segments
  { url with
    authority := url.authority.map fun authority =>
      if authority.credentials?.isSome then { authority with user := "", password := none }
      else authority }

/-- The header that identifies the client: the token before the user of the base URL. -/
def authorization (client : DecisionPoint State) : Option String :=
  match client.token with
  | some token => some (String.ofList (dropBlankEnd ("Bearer " ++ token).toList))
  | none => client.baseUrl.authority.bind Authority.credentials?

/-- Send a request for a resource and wait for the answer that settles it. -/
def send (client : DecisionPoint State) (method : HttpMethod) (segments : List String)
    (body : Option Json) : Action State EnforcementError HttpResponse := do
  let url := client.endpoint segments
  if client.token.any (!isHeaderValue ·) then
    unreachable "builder error"
  else if !url.isRequestable then
    unreachable s!"builder error for url ({url.text})"
  else
    match (← client.transport ⟨method, url, client.authorization, body⟩).filter (·.isFinal) with
    | some response => return response
    | none => unreachable s!"error sending request for url ({url.text})"

/-- Why a request was refused, as far as the answer tells. -/
def refusal (response : HttpResponse) : EnforcementError :=
  let reason := response.content?.bind Answer.refusalReason?
  .rejected (reason.getD s!"pdp returned {statusText response.status}")

/-- Post a policy; the decision point answers with its identifier. -/
def post (client : DecisionPoint State) (policy : Policy) (externalId : String) :
    Action State EnforcementError String := do
  let payload := PolicyPayload.ofPolicy client.windows externalId policy
  let response ← client.send .post ["api", "policies"] (some payload.json)
  if response.status ≠ 201 then throw (refusal response)
  else
    match response.content?.bind Answer.savedPolicyId? with
    | some id => return id
    | none => throw (.decode "error decoding response body")

/-- Make sure that the decision point knows the user of a bounded policy. -/
def ensureUserKnown (client : DecisionPoint State) (policy : Policy) :
    Action State EnforcementError Unit := do
  if !policy.isDefault then
    let response ← client.send .get ["policies", policy.user] none
    if response.status = 404 then
      let _ ← client.post (Policy.baselineFor policy.user) ""

/-- Save a policy under an identifier, a blank one for a policy new to the decision point. -/
def save (client : DecisionPoint State) (policy : Policy) (externalId : String) :
    Action State EnforcementError String := do
  client.ensureUserKnown policy
  client.post policy externalId

/-- The client as a means of enforcement. -/
def enforcement (client : DecisionPoint State) : Enforcement State where
  create policy := do
    let id ← client.save policy ""
    if id.isEmpty then throw (.decode "pdp returned an empty policy id") else return id
  update id policy := do
    let _ ← client.save policy id
  delete id := do
    let response ← client.send .delete ["api", "policy", id] none
    if response.isSuccess ∨ response.status = 404 then return ()
    else throw (refusal response)

end DecisionPoint

end IntentPolicy
