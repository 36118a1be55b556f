import IntentPolicy.Policy.Refinement

namespace IntentPolicy

/-!
# Failures

Failures as the service sees them, and as they are shown to those who use it.  What a
user asks for and cannot have is told apart from what is out of order.
-/

/-- A request that the rules of intents refuse. -/
inductive DomainError where
  | refinement (error : RefinementError)
  | intentNotFound (id : String)
  | invariantViolation (reason : String)
  deriving DecidableEq

/-- The wording of the error. -/
def DomainError.message : DomainError → String
  | .refinement error => error.message
  | .intentNotFound id => s!"intent {id} not found"
  | .invariantViolation reason => s!"domain invariant violation: {reason}"

/-- A request that failed. -/
inductive ServiceError where
  | domain (error : DomainError)
  | persistence (reason : String)
  | integration (reason : String)
  | configuration (reason : String)
  deriving DecidableEq

/-- The wording of the error. -/
def ServiceError.message : ServiceError → String
  | .domain error => error.message
  | .persistence reason => s!"persistence failure: {reason}"
  | .integration reason => s!"integration failure: {reason}"
  | .configuration reason => s!"configuration failure: {reason}"

/-- How a failure is shown to a user. -/
inductive FailureClass where
  | badRequest
  | notFound
  | serviceUnavailable
  | internal
  deriving Repr, DecidableEq

namespace FailureClass

/-- The name of the class. -/
def name : FailureClass → String
  | .badRequest => "bad_request"
  | .notFound => "not_found"
  | .serviceUnavailable => "service_unavailable"
  | .internal => "internal"

/-- The words that open the display of a failure. -/
def title : FailureClass → String
  | .badRequest => "bad request"
  | .notFound => "not found"
  | .serviceUnavailable => "service unavailable"
  | .internal => "internal error"

/-- What a user is told. -/
def userMessage : FailureClass → String
  | .badRequest => "The intent could not be processed. Check the sentence and try again."
  | .notFound => "The requested intent does not exist."
  | .serviceUnavailable => "The service is temporarily unavailable. Please retry shortly."
  | .internal => "An unexpected internal error occurred."

/-- The exit code of a command that failed so. -/
def exitCode : FailureClass → Nat
  | .badRequest => 6
  | .notFound => 7
  | .serviceUnavailable => 8
  | .internal => 9

end FailureClass

/-- A failure as it is shown: its class, its message and the request it belongs to. -/
structure ShownFailure where
  failureClass : FailureClass
  message : String
  correlationId : String
  deriving Repr, DecidableEq

/-- The request that a failure belongs to when no request has been named. -/
def unassignedRequest : String := "unassigned"

/-- The display of a failure. -/
def ShownFailure.display (failure : ShownFailure) : String :=
  s!"{failure.failureClass.title}: {failure.message}"

/-- How an error is shown within a request. -/
def ServiceError.shown (error : ServiceError) (correlationId : String) : ShownFailure :=
  match error with
  | .domain (.intentNotFound id) =>
      ⟨.notFound, (DomainError.intentNotFound id).message, correlationId⟩
  | .domain error => ⟨.badRequest, error.message, correlationId⟩
  | .persistence reason => ⟨.serviceUnavailable, reason, correlationId⟩
  | .integration reason => ⟨.serviceUnavailable, reason, correlationId⟩
  | .configuration reason => ⟨.internal, reason, correlationId⟩

end IntentPolicy
