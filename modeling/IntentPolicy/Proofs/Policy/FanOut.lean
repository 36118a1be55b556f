import IntentPolicy.Proofs.Intent.Agreement
import IntentPolicy.Proofs.Number.ScaleFree
import IntentPolicy.Proofs.Policy.Refining
import IntentPolicy.Proofs.Policy.Refusal

namespace IntentPolicy

/-!
# One policy for each user

A translation fans out to one policy for each user that an intent names.  Intents that agree
are translated alike: to the same policies up to their order, or not at all and for one reason.
-/

/--
The policies are those of a list of users: one for each of them, in the order in which the users
are named first, and alike but for the user.
-/
structure FansOut (users : List String) (policies : List Policy) : Prop where
  everyUser : NameSame users (policies.map (·.user))
  once : (policies.map (·.user)).Nodup
  byFirstMention :
    (policies.map (·.user)).Pairwise fun earlier later => users.idxOf earlier < users.idxOf later
  alike : ∀ policy ∈ policies, ∀ other ∈ policies, { policy with user := other.user } = other

/-- Two errors of one kind: they differ at most in the scale of the amount that they name. -/
inductive TranslationError.SameKind : TranslationError → TranslationError → Prop
  | same (error : TranslationError) : SameKind error error
  | overflow {amount other : Decimal}
      (sameValue : amount.sameValue other = true)
      (currency : Currency) :
      SameKind (.thresholdOverflow amount currency) (.thresholdOverflow other currency)

/-- Two answers are errors of one kind, or both are results and these are related. -/
inductive AnsweredAlike {Result : Type} (Related : Result → Result → Prop) :
    Except TranslationError Result → Except TranslationError Result → Prop
  | refused {error other : TranslationError}
      (sameKind : error.SameKind other) :
      AnsweredAlike Related (.error error) (.error other)
  | answered {result other : Result}
      (related : Related result other) :
      AnsweredAlike Related (.ok result) (.ok other)

namespace AnsweredAlike

variable {Result Next : Type} {Related : Result → Result → Prop}

theorem refl
    (answer : Except TranslationError Result) :
    AnsweredAlike Eq answer answer := by
  cases answer with
  | error error => exact .refused (.same error)
  | ok result => exact .answered rfl

/-- What is done with related results decides where neither answer is an error. -/
theorem bind
    {RelatedNext : Next → Next → Prop}
    {left right : Except TranslationError Result}
    {leftNext rightNext : Result → Except TranslationError Next}
    (alike : AnsweredAlike Related left right)
    (onwards : ∀ {result other}, Related result other →
      AnsweredAlike RelatedNext (leftNext result) (rightNext other)) :
    AnsweredAlike RelatedNext (left >>= leftNext) (right >>= rightNext) := by
  cases alike with
  | refused sameKind => exact .refused sameKind
  | answered related => exact onwards related

end AnsweredAlike

/-! ## Amounts of one value -/

namespace RateTable

variable {rates : RateTable} {amount other : Decimal} {left right : Intent}

/-- Amounts of one value are converted to one amount, or overflow alike. -/
theorem toCanonical_alike
    (same : amount.sameValue other = true)
    (currency : Option Currency) :
    AnsweredAlike Eq (rates.toCanonical amount currency) (rates.toCanonical other currency) := by
  by_cases canonical : ∀ named ∈ currency, ¬ named.IsForeign
  · rw [toCanonical_canonical canonical, toCanonical_canonical canonical]
    exact .answered (Decimal.normalize_of_sameValue same)
  · simp only [not_forall, not_not] at canonical
    obtain ⟨named, rfl, foreign⟩ := canonical
    rw [toCanonical_foreign foreign, toCanonical_foreign foreign]
    cases rates.lookup named with
    | none => exact .refused (.same _)
    | some rate =>
        have products := Decimal.mul?_of_sameValue same rate
        dsimp only
        cases product : amount.mul? rate <;> cases otherProduct : other.mul? rate <;>
          rw [product, otherProduct] at products
        case none.none => exact .refused (.overflow same named)
        case some.some => exact .answered (Option.some.inj products)
        all_goals cases products

theorem canonicalThreshold_alike
    (sameThreshold : Intent.sameThreshold left.threshold right.threshold = true)
    (sameCurrency : left.currency = right.currency) :
    AnsweredAlike Eq (rates.canonicalThreshold left) (rates.canonicalThreshold right) := by
  rw [canonicalThreshold, canonicalThreshold, ← sameCurrency]
  cases leftBound : left.threshold <;> cases rightBound : right.threshold <;>
    rw [leftBound, rightBound] at sameThreshold
  case none.none => exact .answered rfl
  case some.some => exact toCanonical_alike sameThreshold left.currency
  all_goals cases sameThreshold

end RateTable

/-! ## Users -/

namespace Translator

variable {translator : Translator} {left right intent : Intent} {policies : List Policy}

theorem mem_distinctUsers
    {users : List String}
    {user : String} :
    user ∈ distinctUsers users ↔ user ∈ users := by
  induction users with
  | nil => rfl
  | cons first rest inductionHypothesis =>
      rw [distinctUsers, List.mem_cons, List.mem_filter, inductionHypothesis, List.mem_cons,
        bne_iff_ne]
      by_cases isFirst : user = first <;> simp [isFirst]

/-- Users stand in the order in which they are named first, and so each of them once. -/
theorem distinctUsers_pairwise
    (users : List String) :
    (distinctUsers users).Pairwise fun earlier later =>
      users.idxOf earlier < users.idxOf later := by
  induction users with
  | nil => exact .nil
  | cons first rest inductionHypothesis =>
      have behindFirst {user : String} (other : user ≠ first) :
          (first :: rest).idxOf user = rest.idxOf user + 1 :=
        List.idxOf_cons_ne rest other.symm
      rw [distinctUsers, List.pairwise_cons]
      constructor
      · intro later member
        have other : later ≠ first := bne_iff_ne.mp (List.mem_filter.mp member).2
        rw [List.idxOf_cons_self, behindFirst other]
        exact Nat.succ_pos _
      · rw [List.pairwise_filter]
        apply inductionHypothesis.imp
        intro earlier later ordered earlierOther laterOther
        rw [behindFirst (bne_iff_ne.mp earlierOther), behindFirst (bne_iff_ne.mp laterOther)]
        exact Nat.succ_lt_succ ordered

theorem nodup_distinctUsers
    (users : List String) :
    (distinctUsers users).Nodup := by
  apply (distinctUsers_pairwise users).imp
  rintro earlier _ ordered rfl
  exact Nat.lt_irrefl _ ordered

/-- What an intent is translated to fans out to its users. -/
theorem fansOut_of_translate
    (translated : translator.translate intent = .ok policies) :
    FansOut intent.users policies := by
  obtain ⟨template, -, rfl⟩ := exists_template_of_translate translated
  have users :
      ((distinctUsers intent.users).map fun user => { template with user := user }).map
          (·.user) = distinctUsers intent.users := by
    simp [Function.comp_def]
  constructor
  case everyUser =>
    rw [users]
    exact fun user => mem_distinctUsers.symm
  case once =>
    rw [users]
    exact nodup_distinctUsers intent.users
  case byFirstMention =>
    rw [users]
    exact distinctUsers_pairwise intent.users
  case alike =>
    intro policy member other otherMember
    obtain ⟨user, -, rfl⟩ := List.mem_map.mp member
    obtain ⟨otherUser, -, rfl⟩ := List.mem_map.mp otherMember
    rfl

/-! ## Intents that agree -/

theorem checkComplete_of_agrees
    (agree : left.agrees right = true) :
    left.checkComplete = right.checkComplete := by
  obtain ⟨sameUsers, sameThreshold, same⟩ := Intent.agrees_iff.mp agree
  have someUser : left.users.isEmpty = right.users.isEmpty := by
    rw [Bool.eq_iff_iff, List.isEmpty_iff, List.isEmpty_iff, List.eq_nil_iff_forall_not_mem,
      List.eq_nil_iff_forall_not_mem]
    exact forall_congr' fun user => not_congr (sameUsers user)
  have someThreshold : left.threshold.isSome = right.threshold.isSome := by
    cases leftBound : left.threshold <;> cases rightBound : right.threshold <;>
      rw [leftBound, rightBound] at sameThreshold
    case some.some => rfl
    all_goals cases sameThreshold
  rw [same]
  simp only [Intent.checkComplete, someUser, someThreshold]

theorem template_of_agrees
    (agree : left.agrees right = true) :
    AnsweredAlike Eq (translator.template left) (translator.template right) := by
  obtain ⟨-, sameThreshold, same⟩ := Intent.agrees_iff.mp agree
  have samePool : left.admittedPool = right.admittedPool := by
    rw [same]
    rfl
  rw [template, template, samePool]
  refine (RateTable.canonicalThreshold_alike sameThreshold (by rw [same])).bind ?_
  rintro threshold _ rfl
  refine (AnsweredAlike.refl right.admittedPool).bind ?_
  rintro pool _ rfl
  apply AnsweredAlike.answered
  rw [same]
  rfl

/-- Intents that agree are translated alike. -/
theorem translate_of_agrees
    (agree : left.agrees right = true) :
    AnsweredAlike List.Perm (translator.translate left) (translator.translate right) := by
  rw [translate, translate, checkComplete_of_agrees agree]
  refine (AnsweredAlike.refl right.checkComplete).bind fun _ => ?_
  refine (template_of_agrees agree).bind ?_
  rintro template _ rfl
  have sameUsers : (distinctUsers left.users).Perm (distinctUsers right.users) := by
    rw [List.perm_ext_iff_of_nodup (nodup_distinctUsers _) (nodup_distinctUsers _)]
    intro user
    rw [mem_distinctUsers, mem_distinctUsers]
    exact (Intent.agrees_iff.mp agree).1 user
  exact .answered (sameUsers.map _)

end Translator

/--
Intents that agree are translated to the same policies up to their order, or are refused with
errors of one kind.  Every translation has one policy for each user, in the order of the first
mention and alike but for the user; and without a NaN among the baselines each of the policies
agrees with itself, so policies that are the same agree.
-/
theorem agreeing_intents_translate_alike
    (translator : Translator) :
    (∀ left right : Intent, left.agrees right = true →
      AnsweredAlike List.Perm (translator.translate left) (translator.translate right)) ∧
    ∀ (intent : Intent) (policies : List Policy), translator.translate intent = .ok policies →
      FansOut intent.users policies ∧
        (translator.baselines.IsNaNFree → ∀ policy ∈ policies, policy.agrees policy = true) := by
  refine ⟨fun left right => Translator.translate_of_agrees, fun intent policies translated => ?_⟩
  refine ⟨Translator.fansOut_of_translate translated, fun nanFree policy member => ?_⟩
  exact (Translator.translate_isNaNFree nanFree translated policy member).agrees_self

/-- One of two users is named twice, and the amount is written with two more zeros. -/
theorem agreeing_intents_translate_alike_at_two_scales :
    let rate : Decimal := ⟨⟨118, 2, by decide, by decide⟩, false⟩
    let translator : Translator := ⟨.ofList [(.eur, rate)], {}⟩
    let left : Intent :=
      { users := ["ann", "bob", "ann"]
        blockchain := some .eos
        interval := some .daily
        currency := some .eur
        threshold := Decimal.ofParts? false 15 1 }
    let right : Intent :=
      { left with users := ["bob", "ann"], threshold := Decimal.ofParts? false 1500 3 }
    let template : Policy :=
      { interval := .daily
        threshold := ⟨⟨177, 2, by decide, by decide⟩, false⟩
        pool := .ofList [.eos] }
    let policies := [{ template with user := "ann" }, { template with user := "bob" }]
    left.agrees right = true ∧ translator.translate left = .ok policies ∧
      AnsweredAlike List.Perm (.ok policies) (translator.translate right) ∧
      FansOut left.users policies ∧ ∀ policy ∈ policies, policy.agrees policy = true := by
  intro rate translator left right template policies
  have agree : left.agrees right = true := by decide +kernel
  have translated : translator.translate left = .ok policies := by decide +kernel
  obtain ⟨alike, fansOut⟩ := agreeing_intents_translate_alike translator
  obtain ⟨fansOutHere, agreesWithItself⟩ := fansOut left policies translated
  have nanFree : translator.baselines.IsNaNFree := ⟨by decide +kernel, by decide +kernel⟩
  refine ⟨agree, translated, ?_, fansOutHere, agreesWithItself nanFree⟩
  rw [← translated]
  exact alike left right agree

end IntentPolicy
