import IntentPolicy.Policy.Basic
import IntentPolicy.Text.Blank
import IntentPolicy.Time.Instant

namespace IntentPolicy

/-!
# Records

Intents as their owners entered them, and the policies that are enforced for them under
the identifiers that enforcement gave out.
-/

/-- An intent as its owner entered it. -/
structure IntentRecord where
  id : String
  owner : String
  text : String
  createdAt : Instant
  updatedAt : Instant
  deriving DecidableEq

/-- A policy of one intent, with the identifier that enforcement knows it by. -/
structure PolicyRecord where
  id : String
  intentId : String
  externalId : String
  policy : Policy
  createdAt : Instant
  updatedAt : Instant
  deriving DecidableEq

/-- An intent together with the policies that are enforced for it. -/
structure IntentView where
  intent : IntentRecord
  policies : List PolicyRecord
  deriving DecidableEq

/-- The identifier was given out by enforcement rather than left blank. -/
def isAssigned (externalId : String) : Bool :=
  !isAllBlank externalId

end IntentPolicy
