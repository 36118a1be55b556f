import IntentPolicy.Policy.Record
import Mathlib.Data.List.Nodup
import Mathlib.Logic.Function.Basic

namespace IntentPolicy

/-!
# What is held and what is stored

Enforcement holds policies under external identifiers, and records say which.  The two
match as long as they are changed together, one record at a time.
-/

/--
What is held is what is stored: every policy that is held has a record, every record has
its policy held under its external identifier, and no two records share one.
-/
structure Mirrors (held : String → Option Policy) (records : List PolicyRecord) : Prop where
  held_iff : ∀ externalId policy, held externalId = some policy ↔
    ∃ record ∈ records, record.externalId = externalId ∧ record.policy = policy
  distinct : (records.map (·.externalId)).Nodup

namespace Mirrors

variable {held : String → Option Policy} {record : PolicyRecord} {records others : List PolicyRecord}

/-- The order of the records does not matter. -/
theorem perm
    (mirrors : Mirrors held records)
    (same : records.Perm others) :
    Mirrors held others := by
  constructor
  · intro externalId policy
    rw [mirrors.held_iff]
    simp only [same.mem_iff]
  · exact (same.map _).nodup_iff.mp mirrors.distinct

/-- What is stored is held. -/
theorem held_of_mem
    (mirrors : Mirrors held records)
    (member : record ∈ records) :
    held record.externalId = some record.policy :=
  (mirrors.held_iff _ _).mpr ⟨record, member, rfl, rfl⟩

/-- No record has an external identifier under which nothing is held. -/
theorem not_mem_of_free
    (mirrors : Mirrors held records)
    (free : held record.externalId = none) :
    record.externalId ∉ records.map (·.externalId) := by
  intro member
  obtain ⟨other, otherMember, sameExternal⟩ := List.mem_map.mp member
  have otherHeld := mirrors.held_of_mem otherMember
  rw [sameExternal, free] at otherHeld
  cases otherHeld

/-- A policy is added together with its record. -/
theorem add
    (mirrors : Mirrors held records)
    (free : held record.externalId = none) :
    Mirrors (Function.update held record.externalId (some record.policy)) (record :: records) := by
  have notThere := mirrors.not_mem_of_free free
  constructor
  · intro externalId policy
    rw [List.exists_mem_cons_iff]
    by_cases here : externalId = record.externalId
    · rw [here, Function.update_self]
      constructor
      · intro samePolicy
        exact Or.inl ⟨rfl, Option.some.inj samePolicy⟩
      · rintro (⟨-, samePolicy⟩ | ⟨other, member, sameExternal, -⟩)
        · rw [samePolicy]
        · exact (notThere (List.mem_map.mpr ⟨other, member, sameExternal⟩)).elim
    · rw [Function.update_of_ne here, mirrors.held_iff]
      constructor
      · exact Or.inr
      · rintro (⟨sameExternal, -⟩ | elsewhere)
        · exact (here sameExternal.symm).elim
        · exact elsewhere
  · exact List.nodup_cons.mpr ⟨notThere, mirrors.distinct⟩

/-- A policy is removed together with its record. -/
theorem remove
    (mirrors : Mirrors held (record :: records)) :
    Mirrors (Function.update held record.externalId none) records := by
  obtain ⟨notThere, distinct⟩ := List.nodup_cons.mp mirrors.distinct
  constructor
  · intro externalId policy
    by_cases here : externalId = record.externalId
    · rw [here, Function.update_self]
      constructor
      · intro impossible
        cases impossible
      · rintro ⟨other, member, sameExternal, -⟩
        exact (notThere (List.mem_map.mpr ⟨other, member, sameExternal⟩)).elim
    · rw [Function.update_of_ne here, mirrors.held_iff, List.exists_mem_cons_iff]
      constructor
      · rintro (⟨sameExternal, -⟩ | elsewhere)
        · exact (here sameExternal.symm).elim
        · exact elsewhere
      · exact Or.inr
  · exact distinct

end Mirrors

/-- The identifier has been drawn. -/
def IsDrawn (identifiers : Nat → String) (drawn : Nat) (id : String) : Prop :=
  ∃ number < drawn, identifiers number = id

theorem IsDrawn.mono
    {identifiers : Nat → String}
    {drawn more : Nat}
    {id : String}
    (isDrawn : IsDrawn identifiers drawn id)
    (drawnLe : drawn ≤ more) :
    IsDrawn identifiers more id := by
  obtain ⟨number, before, named⟩ := isDrawn
  exact ⟨number, Nat.lt_of_lt_of_le before drawnLe, named⟩

theorem IsDrawn.ne_next
    {identifiers : Nat → String}
    {drawn : Nat}
    {id : String}
    (isDrawn : IsDrawn identifiers drawn id)
    (fresh : Function.Injective identifiers) :
    id ≠ identifiers drawn := by
  obtain ⟨number, before, named⟩ := isDrawn
  intro sameId
  exact Nat.ne_of_lt before (fresh (named.trans sameId))

/--
Records that can be told apart: they mirror what is held, enforcement knows all of them, and
their identifiers are some of those that have been drawn.
-/
structure Kept (identifiers : Nat → String) (held : String → Option Policy) (drawn : Nat)
    (records : List PolicyRecord) : Prop where
  mirrors : Mirrors held records
  assigned : ∀ record ∈ records, isAssigned record.externalId = true
  distinctIds : (records.map (·.id)).Nodup
  identified : ∀ record ∈ records, ∃ number < drawn, identifiers number = record.id

namespace Kept

variable {identifiers : Nat → String} {held : String → Option Policy} {drawn : Nat}
  {record : PolicyRecord} {records others : List PolicyRecord}

theorem perm
    (kept : Kept identifiers held drawn records)
    (same : records.Perm others) :
    Kept identifiers held drawn others where
  mirrors := kept.mirrors.perm same
  assigned other member := kept.assigned other (same.mem_iff.mpr member)
  distinctIds := (same.map _).nodup_iff.mp kept.distinctIds
  identified other member := kept.identified other (same.mem_iff.mpr member)

/-- More identifiers may be drawn. -/
theorem draw
    (kept : Kept identifiers held drawn records) :
    Kept identifiers held (drawn + 1) records where
  mirrors := kept.mirrors
  assigned := kept.assigned
  distinctIds := kept.distinctIds
  identified record member := IsDrawn.mono (kept.identified record member) (Nat.le_succ drawn)

/-- No record has the identifier that is drawn next. -/
theorem ne_next
    (kept : Kept identifiers held drawn records)
    (fresh : Function.Injective identifiers)
    (member : record ∈ records) :
    record.id ≠ identifiers drawn :=
  IsDrawn.ne_next (kept.identified record member) fresh

/-- A record with an identifier of its own is added together with its policy. -/
theorem add
    (kept : Kept identifiers held drawn records)
    (record : PolicyRecord)
    (free : held record.externalId = none)
    (assigned : isAssigned record.externalId = true)
    (ownId : record.id ∉ records.map (·.id))
    (identified : ∃ number < drawn, identifiers number = record.id) :
    Kept identifiers (Function.update held record.externalId (some record.policy)) drawn
      (record :: records) where
  mirrors := kept.mirrors.add free
  assigned := List.forall_mem_cons.mpr ⟨assigned, kept.assigned⟩
  distinctIds := List.nodup_cons.mpr ⟨ownId, kept.distinctIds⟩
  identified := List.forall_mem_cons.mpr ⟨identified, kept.identified⟩

theorem remove
    (kept : Kept identifiers held drawn (record :: records)) :
    Kept identifiers (Function.update held record.externalId none) drawn records where
  mirrors := kept.mirrors.remove
  assigned := (List.forall_mem_cons.mp kept.assigned).2
  distinctIds := (List.nodup_cons.mp kept.distinctIds).2
  identified := (List.forall_mem_cons.mp kept.identified).2

/-- A record gets another policy, under the identifiers that it has. -/
theorem replace
    (kept : Kept identifiers held drawn (record :: records))
    (renewed : PolicyRecord)
    (sameId : renewed.id = record.id)
    (sameExternal : renewed.externalId = record.externalId) :
    Kept identifiers (Function.update held record.externalId (some renewed.policy)) drawn
      (renewed :: records) := by
  have free : Function.update held record.externalId none renewed.externalId = none := by
    rw [sameExternal, Function.update_self]
  have assigned : isAssigned renewed.externalId = true := by
    rw [sameExternal]
    exact kept.assigned record List.mem_cons_self
  have ownId : renewed.id ∉ records.map (·.id) := by
    rw [sameId]
    exact (List.nodup_cons.mp kept.distinctIds).1
  have identified : ∃ number < drawn, identifiers number = renewed.id := by
    rw [sameId]
    exact kept.identified record List.mem_cons_self
  have replaced := kept.remove.add renewed free assigned ownId identified
  rwa [sameExternal, Function.update_idem] at replaced

end Kept

end IntentPolicy
