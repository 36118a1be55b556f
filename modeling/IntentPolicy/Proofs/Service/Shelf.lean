import IntentPolicy.Proofs.Service.Keeping

namespace IntentPolicy

/-!
# A shelf of policies

A client of enforcement that keeps policies under identifiers of its own and fails at the
calls that it is told to fail at.
-/

/-- Policies by identifier, none of them under an identifier beyond some length. -/
structure Shelf where
  held : String → Option Policy := fun _ => none
  calls : Nat := 0
  longest : Nat := 0
  short : ∀ externalId, longest < externalId.length → held externalId = none := by simp

namespace Shelf

/-- An identifier that is longer than those in use. -/
def freeId (shelf : Shelf) : String :=
  String.ofList (List.replicate (shelf.longest + 1) 'p')

/-- The shelf with what is held under an identifier exchanged. -/
def put (shelf : Shelf) (externalId : String) (entry : Option Policy) : Shelf where
  held := Function.update shelf.held externalId entry
  calls := shelf.calls + 1
  longest := max shelf.longest externalId.length
  short := by
    intro other long
    have otherId : other ≠ externalId := by
      rintro rfl
      omega
    rw [Function.update_of_ne otherId]
    exact shelf.short other (by omega)

/-- Exchange what is held under an identifier, unless the call is one of those that fail. -/
def exchange {Value : Type} (fails : Nat → Bool) (externalId : String) (entry : Option Policy)
    (value : Value) (shelf : Shelf) : Except EnforcementError Value × Shelf :=
  if fails shelf.calls then (.error (.rejected "refused"), { shelf with calls := shelf.calls + 1 })
  else (.ok value, shelf.put externalId entry)

/-- The client that keeps policies on a shelf. -/
def enforcement (fails : Nat → Bool) : Enforcement Shelf where
  create policy := ExceptT.mk fun shelf =>
    exchange fails shelf.freeId (some policy) shelf.freeId shelf
  update externalId policy := ExceptT.mk (exchange fails externalId (some policy) ())
  delete externalId := ExceptT.mk (exchange fails externalId none ())

variable {fails : Nat → Bool} {Value : Type} {externalId : String} {entry : Option Policy}
  {value answered : Value} {cause : EnforcementError} {before after : Shelf}

/-- An exchange that goes through changes one entry. -/
theorem held_of_ok
    (ran : exchange fails externalId entry value before = (.ok answered, after)) :
    answered = value ∧ after.held = Function.update before.held externalId entry := by
  rw [exchange] at ran
  split at ran
  · cases ran
  · obtain ⟨sameValue, rfl⟩ := Prod.mk.inj ran
    exact ⟨(Except.ok.inj sameValue).symm, rfl⟩

/-- An exchange that fails changes none. -/
theorem held_of_error
    (ran : exchange fails externalId entry value before = (.error cause, after)) :
    after.held = before.held := by
  rw [exchange] at ran
  split at ran
  · obtain ⟨-, rfl⟩ := Prod.mk.inj ran
    rfl
  · cases ran

/-- A shelf behaves like a store of policies, whichever calls fail. -/
theorem storesPolicies
    (fails : Nat → Bool) :
    (enforcement fails).StoresPolicies Shelf.held where
  create := by
    intro policy before externalId after ran
    obtain ⟨rfl, heldEq⟩ := held_of_ok ran
    refine ⟨?_, before.short _ ?_, heldEq⟩
    · have visible : isBlank 'p' = false := by decide
      simp [isAssigned, isAllBlank, freeId, List.replicate_succ, visible]
    · simp [freeId]
  update _ ran := (held_of_ok ran).2
  delete _ ran := (held_of_ok ran).2
  refuses := by
    intro call before cause after refuses
    cases call <;> exact held_of_error refuses

/-- A service over a shelf, with identifiers of growing length. -/
def deployment (fails : Nat → Bool) : Deployment Shelf where
  enforcement := enforcement fails
  identifiers number := String.ofList (List.replicate (number + 1) 'r')
  baselines := {}
  correlationId := "request"

/-- The identifiers differ in their length. -/
theorem identifiers_injective
    (fails : Nat → Bool) :
    Function.Injective (deployment fails).identifiers := by
  intro number other same
  simpa [deployment] using congrArg String.length same

end Shelf

end IntentPolicy
