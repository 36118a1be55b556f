namespace IntentPolicy

/-!
# Audit events

What is put on record about the life of intents and policies.  The detail of an event
fixes its name, its category, its outcome and its metadata.
-/

/-- What an event is about. -/
inductive AuditCategory where
  | enforcement
  | persistence
  deriving Repr, DecidableEq

/-- How what an event reports has ended. -/
inductive AuditOutcome where
  | success
  | failed
  deriving Repr, DecidableEq

/-- What has happened. -/
inductive AuditDetail where
  | policyCreated (recordId externalId user : String)
  | policyUpdated (recordId externalId user : String)
  | policyDeleted (recordId externalId user : String)
  | enforcementFailed (user error : String)
  | intentCreated (policies : Nat)
  | intentUpdated (policies : Nat)
  | intentDeleted (policies : Nat)
  deriving Repr, DecidableEq

namespace AuditDetail

/-- The name of the event. -/
def name : AuditDetail → String
  | .policyCreated .. => "policy.created"
  | .policyUpdated .. => "policy.updated"
  | .policyDeleted .. => "policy.deleted"
  | .enforcementFailed .. => "policy.enforcement_failed"
  | .intentCreated .. => "intent.created"
  | .intentUpdated .. => "intent.updated"
  | .intentDeleted .. => "intent.deleted"

/-- The category of the event. -/
def category : AuditDetail → AuditCategory
  | .policyCreated .. | .policyUpdated .. | .policyDeleted .. | .enforcementFailed .. =>
      .enforcement
  | .intentCreated .. | .intentUpdated .. | .intentDeleted .. => .persistence

/-- The outcome of the event. -/
def outcome : AuditDetail → AuditOutcome
  | .enforcementFailed .. => .failed
  | _ => .success

/-- The metadata of the event, by name. -/
def metadata : AuditDetail → List (String × String)
  | .policyCreated recordId externalId user
  | .policyUpdated recordId externalId user
  | .policyDeleted recordId externalId user =>
      [("external_id", externalId), ("record_id", recordId), ("user", user)]
  | .enforcementFailed user error => [("error", error), ("user", user)]
  | .intentCreated policies | .intentUpdated policies | .intentDeleted policies =>
      [("policies", toString policies)]

end AuditDetail

/-- On whose behalf and within which request events arise. -/
structure AuditContext where
  correlationId : String
  actor : String
  deriving Repr, DecidableEq

/-- One event on record. -/
structure AuditEvent where
  intentId : String
  context : AuditContext
  detail : AuditDetail
  deriving Repr, DecidableEq

end IntentPolicy
