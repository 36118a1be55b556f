import IntentPolicy.Policy.Refinement
import IntentPolicy.Proofs.Number.DecimalReading
import Mathlib.Data.List.Nodup

namespace IntentPolicy

/-!
# Rates behind a table

A table knows the rates of the list it was made of, in whatever order they were listed.  Signs
of zero are lost when rates are stored, which makes no difference to a translation.
-/

namespace RateTable

variable {rates : List (Currency × Decimal)} {currency : Currency} {rate : Decimal}

theorem lookup_foldl
    (distinct : (rates.map (·.1)).Nodup)
    (table : RateTable) :
    (rates.foldl (fun table entry => table.set entry.1 entry.2) table).lookup currency =
        some rate ↔
      (currency, rate) ∈ rates ∨
        currency ∉ rates.map (·.1) ∧ table.lookup currency = some rate := by
  induction rates generalizing table with
  | nil => simp
  | cons entry rates inductionHypothesis =>
      obtain ⟨known, amount⟩ := entry
      rw [List.map_cons, List.nodup_cons] at distinct
      rw [List.foldl_cons, inductionHypothesis distinct.2, set]
      by_cases isKnown : currency = known
      · subst isKnown
        have notBehind : (currency, rate) ∉ rates := fun member =>
          distinct.1 (List.mem_map.mpr ⟨(currency, rate), member, rfl⟩)
        simp [notBehind, distinct.1, eq_comm]
      · simp [isKnown]

/-- With one rate for each currency, the table knows just the rates that are listed. -/
theorem lookup_ofList
    (distinct : (rates.map (·.1)).Nodup) :
    (ofList rates).lookup currency = some rate ↔ (currency, rate) ∈ rates := by
  rw [ofList, lookup_foldl distinct]
  simp [empty]

/-- The rates of another table, without signs of zero. -/
def IsUnsigned (table other : RateTable) : Prop :=
  ∀ currency, table.lookup currency = (other.lookup currency).map Decimal.unsignedZero

variable {table other : RateTable}

theorem IsUnsigned.toCanonical_eq
    (unsigned : table.IsUnsigned other)
    (amount : Decimal)
    (currency : Option Currency) :
    table.toCanonical amount currency = other.toCanonical amount currency := by
  cases currency with
  | none => rfl
  | some currency =>
      rw [toCanonical, toCanonical]
      by_cases isCanonical : currency = .canonical
      · rw [if_pos isCanonical, if_pos isCanonical]
      · rw [if_neg isCanonical, if_neg isCanonical, rateFor?, if_neg isCanonical, rateFor?,
          if_neg isCanonical, unsigned currency]
        cases other.lookup currency with
        | none => rfl
        | some rate =>
            rw [Option.map_some]
            dsimp only
            rw [Decimal.mul?_unsignedZero]

end RateTable

/-- Sentences are translated alike at rates that differ in signs of zero only. -/
theorem Translator.refine_of_isUnsigned
    {table other : RateTable}
    (unsigned : table.IsUnsigned other)
    (baselines : Baselines)
    (text : String) :
    (⟨table, baselines⟩ : Translator).refine text =
      (⟨other, baselines⟩ : Translator).refine text := by
  have sameThreshold (intent : Intent) :
      table.canonicalThreshold intent = other.canonicalThreshold intent := by
    rw [RateTable.canonicalThreshold, RateTable.canonicalThreshold]
    cases intent.threshold with
    | none => rfl
    | some amount => exact unsigned.toCanonical_eq amount intent.currency
  have sameTemplate (intent : Intent) :
      (⟨table, baselines⟩ : Translator).template intent =
        (⟨other, baselines⟩ : Translator).template intent := by
    rw [template, template, sameThreshold]
  have samePolicies (intent : Intent) :
      (⟨table, baselines⟩ : Translator).translate intent =
        (⟨other, baselines⟩ : Translator).translate intent := by
    rw [translate, translate, sameTemplate]
  rw [refine, refine]
  simp only [samePolicies]

end IntentPolicy
