import IntentPolicy.Policy.Record

namespace IntentPolicy

/-!
# Enforcement

What reconciliation asks of the service that applies policies.  A client works on a
state of its own choice, so it can be a remote service, a script or a plain store.
-/

/-- Why enforcement did not do what it was asked to. -/
inductive EnforcementError where
  | rejected (reason : String)
  | transport (reason : String)
  | decode (reason : String)
  deriving Repr, DecidableEq

/-- The wording of the error. -/
def EnforcementError.message : EnforcementError → String
  | .rejected reason => s!"policy rejected by enforcement: {reason}"
  | .transport reason => s!"enforcement transport failure: {reason}"
  | .decode reason => s!"enforcement response could not be decoded: {reason}"

/-- A computation on a state that can fail and keeps the state it had reached. -/
abbrev Action (State Error Value : Type) : Type :=
  ExceptT Error (StateM State) Value

/-- A client of the service that applies policies; creating gives the policy's identifier. -/
structure Enforcement (State : Type) where
  create : Policy → Action State EnforcementError String
  update : String → Policy → Action State EnforcementError Unit
  delete : String → Action State EnforcementError Unit

/-- The client that applies nothing and always succeeds with a blank identifier. -/
def Enforcement.disabled (State : Type) : Enforcement State where
  create _ := pure ""
  update _ _ := pure ()
  delete _ := pure ()

end IntentPolicy
