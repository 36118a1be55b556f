import IntentPolicy.Policy.Refinement
import IntentPolicy.Proofs.Reconciliation.Standing
import IntentPolicy.Proofs.Sentence.Tokens

namespace IntentPolicy

/-!
# What a sentence is refined to

Blanks around a sentence do not matter, and baselines without a NaN lead to policies without
one.
-/

/-- No baseline is a NaN. -/
structure Baselines.IsNaNFree (baselines : Baselines) : Prop where
  popularity : baselines.minPopularity.isNaN = false
  stability : baselines.minStability.isNaN = false

namespace Baselines.IsNaNFree

variable {baselines : Baselines} {policy : Policy}

/-- A filter changes a criterion to its baseline at most. -/
theorem raise
    (nanFree : baselines.IsNaNFree)
    (policyNaNFree : policy.IsNaNFree)
    (filter : Filter) :
    (baselines.raise policy filter).IsNaNFree := by
  cases filter with
  | stable => exact ⟨policyNaNFree.popularity, nanFree.stability⟩
  | popular => exact ⟨nanFree.popularity, policyNaNFree.stability⟩
  | _ => exact ⟨policyNaNFree.popularity, policyNaNFree.stability⟩

theorem raiseAll
    (nanFree : baselines.IsNaNFree)
    (policyNaNFree : policy.IsNaNFree)
    (filters : List Filter) :
    (filters.foldl baselines.raise policy).IsNaNFree := by
  induction filters generalizing policy with
  | nil => exact policyNaNFree
  | cons filter filters inductionHypothesis =>
      exact inductionHypothesis (nanFree.raise policyNaNFree filter)

end Baselines.IsNaNFree

namespace Translator

variable {translator : Translator} {intent : Intent} {policies : List Policy} {text : String}

/-- Without a NaN among the baselines there is none in the template. -/
theorem template_isNaNFree
    {template : Policy}
    (nanFree : translator.baselines.IsNaNFree)
    (made : translator.template intent = .ok template) :
    template.IsNaNFree := by
  rw [Translator.template] at made
  cases converted : translator.rates.canonicalThreshold intent with
  | error error =>
      rw [converted] at made
      cases made
  | ok threshold =>
      cases admitted : intent.admittedPool with
      | error error =>
          rw [converted, admitted] at made
          cases made
      | ok pool =>
          have zeroIsNumber : Double.zero.isNaN = false := by decide
          rw [converted, admitted] at made
          rw [← Except.ok.inj made]
          exact nanFree.raiseAll ⟨zeroIsNumber, zeroIsNumber⟩ intent.filters.toList

/-- The policies are the template with each of the users. -/
theorem exists_template_of_translate
    (translated : translator.translate intent = .ok policies) :
    ∃ template, translator.template intent = .ok template ∧
      policies = (distinctUsers intent.users).map fun user => { template with user := user } := by
  rw [translate] at translated
  cases complete : intent.checkComplete with
  | error error =>
      rw [complete] at translated
      cases translated
  | ok _ =>
      cases made : translator.template intent with
      | error error =>
          rw [complete, made] at translated
          cases translated
      | ok template =>
          rw [complete, made] at translated
          exact ⟨template, rfl, (Except.ok.inj translated).symm⟩

theorem translate_isNaNFree
    (nanFree : translator.baselines.IsNaNFree)
    (translated : translator.translate intent = .ok policies) :
    ∀ policy ∈ policies, policy.IsNaNFree := by
  obtain ⟨template, made, rfl⟩ := exists_template_of_translate translated
  have templateNaNFree := template_isNaNFree nanFree made
  intro policy member
  obtain ⟨user, -, rfl⟩ := List.mem_map.mp member
  exact ⟨templateNaNFree.popularity, templateNaNFree.stability⟩

theorem parsed_of_refine
    (refined : translator.refine text = .ok (intent, policies)) :
    parseSentence text = .ok intent ∧ translator.translate intent = .ok policies := by
  rw [refine] at refined
  cases parsed : parseSentence text with
  | error error =>
      rw [parsed] at refined
      cases refined
  | ok sentence =>
      cases translated : translator.translate sentence with
      | error error =>
          rw [parsed] at refined
          simp [translated] at refined
      | ok translation =>
          simp only [parsed, translated, Except.ok.injEq, Prod.mk.injEq] at refined
          obtain ⟨rfl, rfl⟩ := refined
          exact ⟨rfl, translated⟩

theorem translate_ne_nil
    (translated : translator.translate intent = .ok policies) :
    policies ≠ [] := by
  obtain ⟨template, -, rfl⟩ := exists_template_of_translate translated
  cases named : intent.users with
  | nil =>
      rw [translate, Intent.checkComplete, named] at translated
      cases translated
  | cons user users => simp [distinctUsers]

/-- Blanks around a sentence do not matter. -/
theorem refine_trimmed
    (translator : Translator)
    (text : String) :
    translator.refine (trimmed text) = translator.refine text := by
  have sameSentence : parseSentence (trimmed text) = parseSentence text := by
    rw [parseSentence, tokenize_trimmed, parseSentence]
  rw [refine, refine, sameSentence]

end Translator

end IntentPolicy
