import IntentPolicy.Proofs.DecisionPoint.Addressing
import IntentPolicy.Proofs.DecisionPoint.LookupProtocol
import IntentPolicy.Proofs.Reconciliation.Carrying

namespace IntentPolicy

/-!
# Policies that are not forgotten

A client tells that a policy was created if the decision point names it by any text but the empty
one, while reconciliation takes every blank text for no name at all.  So a policy that was given a
blank identifier is created a second time instead of being updated and is never deleted.
-/

namespace DecisionPoint

variable {State : Type} {client : DecisionPoint State} {record : PolicyRecord} {intentId : String}
  {now : Instant} {newId : StateM State String}

/-- The request to delete the policy under an identifier. -/
def deletion (client : DecisionPoint State) (externalId : String) : HttpRequest :=
  ⟨.delete, client.endpoint ["api", "policy", externalId], client.authorization, none⟩

/-- Reconciliation by a client of which every request is written down. -/
def reconciler (client : DecisionPoint State) (newId : StateM State String) :
    Reconciler (Overheard State) where
  enforcement := client.overheard.enforcement
  newId before :=
    let (id, after) := newId before.state
    (id, { before with state := after })

/--
An update of a record is sent: its policy is saved under the identifier of the record, and all
that is posted tells the policy and that identifier, save for the baseline policy of the user.
-/
structure SendsUpdate (client : DecisionPoint State) (record : PolicyRecord) (policy : Policy)
    (now : Instant) (failure : Option EnforcementError)
    (result : Except Interruption (Option PolicyRecord × Option AppliedStep))
    (exchanges : List HttpExchange) : Prop where
  saves : client.Saves policy record.externalId exchanges failure
  documents : ∀ exchange ∈ exchanges, exchange.request.method = .post →
    client.Posts exchange.request policy record.externalId ∨
      client.Posts exchange.request (.baselineFor policy.user) ""
  failed : ∀ error ∈ failure, result = .error ⟨policy.user, error⟩
  finished : failure = none →
    (∃ exchange ∈ exchanges, client.Posts exchange.request policy record.externalId) ∧
      result = .ok (some (record.renewed record.externalId policy now),
        some (.updated (record.renewed record.externalId policy now)))

/--
The policy of a record is not forgotten, whatever the server answers: an update is sent for the
identifier of the record, which keeps it, in a document that tells it, and a deletion goes to an
address that stands for the identifier.  A plan tells of no deletion that has not been sent.
-/
structure IsRemembered (client : DecisionPoint State) (record : PolicyRecord) : Prop where
  addressed : ∃ segments last, client.baseUrl.path = .hierarchical segments ∧
    (client.deletion record.externalId).url.path =
      .hierarchical (UrlPath.standing segments ++ ["api", "policy"] ++ [last]) ∧
    percentDecode? last.toList = some record.externalId
  updated : ∀ newId intentId now created policy,
    Sends ((client.reconciler newId).carryOutStep intentId now created (.update record policy))
      fun result exchanges =>
        ∃ failure, client.SendsUpdate record policy now failure result exchanges
  deleted : ∀ newId intentId now created,
    Sends ((client.reconciler newId).carryOutStep intentId now created (.delete record))
      fun result exchanges => exchanges.map (·.request) = [client.deletion record.externalId] ∧
        (result = .ok (none, some (.deleted record)) ↔ ∀ exchange ∈ exchanges, exchange.Succeeds)
  carriedOut : ∀ newId intentId now steps before,
    let run := (client.reconciler newId).carryOut intentId now steps {} before
    ∃ exchanges, run.2.exchanges = before.exchanges ++ exchanges ∧
      (AppliedStep.deleted record ∈ run.1.applied → ∃ exchange ∈ exchanges,
        exchange.request = client.deletion record.externalId ∧ exchange.Succeeds) ∧
      (run.1.interruption = none → ∀ policy, PlanStep.update record policy ∈ steps →
        ∃ saving, saving <:+: exchanges ∧ client.Saves policy record.externalId saving none ∧
          ∃ exchange ∈ saving, client.Posts exchange.request policy record.externalId)

/-- Deleting a policy is one request. -/
theorem sends_delete
    (client : DecisionPoint State)
    (externalId : String) :
    Sends (client.overheard.enforcement.delete externalId)
      (client.CallRun (fun _ => [client.deletion externalId]) fun _ => some ()) := by
  have sendsDeletion : Sends (client.overheard.send .delete ["api", "policy", externalId] none)
      (client.SendRun (client.deletion externalId)) :=
    client.sends_send .delete ["api", "policy", externalId] none
  refine sendsDeletion.bind (fun error exchanges run => .failed (run.failed []))
    fun response exchanges run => ?_
  cases run with
  | @settled answer _ sendable isSettled =>
      let exchange : HttpExchange := ⟨client.deletion externalId, answer⟩
      split
      · next done =>
          exact sends_pure (.of_exchange exchange sendable ⟨response, isSettled, done⟩ rfl)
      · next refused =>
          exact sends_throw (.failed (.failed exchange sendable
            (.notDeleted rfl isSettled refused)))

/-- A deletion that can be sent is sent. -/
theorem CallRun.sent_of_canSend
    {request : HttpRequest}
    {result : Except EnforcementError Unit}
    {exchanges : List HttpExchange}
    (run : client.CallRun (fun _ => [request]) (fun _ => some ()) result exchanges)
    (sendable : client.CanSend request) :
    exchanges.map (·.request) = [request] ∧
      (result = .ok () ↔ ∀ exchange ∈ exchanges, exchange.Succeeds) := by
  cases run with
  | finished inOrder _ =>
      obtain ⟨allSent, succeed⟩ := inOrder.isPrefix.2.mp rfl
      exact ⟨allSent, iff_of_true rfl succeed⟩
  | failed inOrder =>
      cases inOrder with
      | sent _ _ _ behind => cases behind
      | unsendable cannot => exact absurd sendable cannot
      | failed exchange _ fails =>
          refine ⟨rfl, iff_of_false nofun fun succeed => ?_⟩
          exact fails.not_succeeds (succeed exchange (List.mem_singleton_self exchange))

/-- Every request that is sent is one that the client can send. -/
theorem SentInOrder.canSend
    {requests : List HttpRequest}
    {exchanges : List HttpExchange}
    {failure : Option EnforcementError}
    (inOrder : client.SentInOrder requests exchanges failure) :
    ∀ exchange ∈ exchanges, client.CanSend exchange.request := by
  induction inOrder with
  | nil => exact List.forall_mem_nil _
  | sent exchange sendable _ _ inductionHypothesis =>
      exact List.forall_mem_cons.mpr ⟨sendable, inductionHypothesis⟩
  | failed exchange sendable _ => exact List.forall_mem_singleton.mpr sendable
  | unsendable => exact List.forall_mem_nil _

/-- Where one request can be sent, others to the same server can be sent that are not too long. -/
theorem CanSend.of_short
    {request other : HttpRequest}
    (sendable : client.CanSend request)
    (sameScheme : other.url.scheme = request.url.scheme)
    (sameAuthority : other.url.authority = request.url.authority)
    (short : other.url.text.utf8ByteSize ≤ longestRequestUrl) :
    client.CanSend other := by
  refine ⟨sendable.token, ?_⟩
  have requestable := sendable.requestable
  unfold Url.isRequestable at requestable ⊢
  rw [sameScheme, sameAuthority]
  rw [Bool.and_eq_true] at requestable ⊢
  exact ⟨requestable.1, decide_eq_true short⟩

/-- Behind a policy that was created, deletions can be sent that are not too long. -/
theorem canSend_deletion_of_create
    {policy : Policy}
    {externalId createdId : String}
    {before after : State}
    (created : (client.enforcement.create policy).run before = (.ok createdId, after))
    (short : (client.deletion externalId).url.text.utf8ByteSize ≤ longestRequestUrl) :
    client.CanSend (client.deletion externalId) := by
  obtain ⟨exchanges, -, failure, saves, -, isOk⟩ := client.sends_create policy ⟨before, []⟩
  have unheard := client.doesUnheard_create policy ⟨before, []⟩
  rw [created] at unheard
  obtain ⟨rfl, -, -⟩ := (isOk createdId).mp (Prod.mk.inj unheard).1.symm
  obtain ⟨exchange, member, isPosting⟩ := saves.exists_posting
  have sendable := saves.inOrder.canSend exchange member
  rw [isPosting] at sendable
  exact sendable.of_short rfl rfl short

section Step

variable {created : Nat}

/-- A step that makes one call sends what the call sends. -/
theorem Sends.call
    {Value Result : Type}
    {action : Action (Overheard State) EnforcementError Value}
    {outcome : Except EnforcementError Value → List HttpExchange → Prop}
    (sends : Sends action outcome)
    (user : String)
    (tell : Value → Result) :
    Sends (Reconciler.call user action >>= fun value => pure (tell value))
      fun result exchanges => ∃ answer, outcome answer exchanges ∧
        result = (answer.mapError (Interruption.mk user)).map tell := by
  intro before
  obtain ⟨exchanges, added, told⟩ := sends before
  rw [Reconciler.run_call_bind]
  rcases ran : action.run before with ⟨error | value, reached⟩
  · rw [ran] at added told
    exact ⟨exchanges, added, _, told, rfl⟩
  · rw [ran] at added told
    exact ⟨exchanges, added, _, told, rfl⟩

/-- What was run has sent what running it sends. -/
theorem Sends.of_run
    {Error Value : Type}
    {action : Action (Overheard State) Error Value}
    {outcome : Except Error Value → List HttpExchange → Prop}
    {result : Except Error Value}
    {before after : Overheard State}
    (sends : Sends action outcome)
    (ran : action.run before = (result, after)) :
    ∃ exchanges, after.exchanges = before.exchanges ++ exchanges ∧ outcome result exchanges := by
  have sent := sends before
  rwa [ran] at sent

/-- An update of a record that has an identifier is sent for the identifier. -/
theorem sends_update_of_assigned
    (assigned : isAssigned record.externalId = true)
    (policy : Policy) :
    Sends ((client.reconciler newId).carryOutStep intentId now created (.update record policy))
      fun result exchanges =>
        ∃ failure, client.SendsUpdate record policy now failure result exchanges := by
  rw [Reconciler.carryOutStep_update_of_assigned assigned]
  refine ((client.sends_update policy record.externalId).call policy.user _).imp ?_
  rintro result exchanges ⟨answer, ⟨failure, saves, fails, isOk⟩, rfl⟩
  refine ⟨failure, saves, fun _ => saves.posts, fun error isError => ?_, fun finished => ?_⟩
  · rw [fails error isError]
    rfl
  · subst finished
    obtain ⟨exchange, member, isPosting⟩ := saves.exists_posting
    have posts := client.posts_posting policy record.externalId
    refine ⟨⟨exchange, member, isPosting ▸ posts⟩, ?_⟩
    rw [isOk.mpr rfl]
    rfl

/-- A deletion of a record that has an identifier is sent if it can be. -/
theorem sends_delete_of_assigned
    (assigned : isAssigned record.externalId = true)
    (sendable : client.CanSend (client.deletion record.externalId)) :
    Sends ((client.reconciler newId).carryOutStep intentId now created (.delete record))
      fun result exchanges => exchanges.map (·.request) = [client.deletion record.externalId] ∧
        (result = .ok (none, some (.deleted record)) ↔
          ∀ exchange ∈ exchanges, exchange.Succeeds) := by
  rw [Reconciler.carryOutStep, if_pos assigned]
  refine ((client.sends_delete record.externalId).call record.policy.user _).imp ?_
  rintro result exchanges ⟨answer, run, rfl⟩
  obtain ⟨sent, isOk⟩ := run.sent_of_canSend sendable
  refine ⟨sent, Iff.trans ?_ isOk⟩
  cases answer with
  | ok _ => exact iff_of_true rfl rfl
  | error _ => constructor <;> rintro ⟨⟩

/-- A deletion of a record that has no identifier sends nothing. -/
theorem run_delete_of_unassigned
    (unassigned : isAssigned record.externalId = false)
    (before : Overheard State) :
    ((client.reconciler newId).carryOutStep intentId now created (.delete record)).run before =
      (.ok (none, some (.deleted record)), before) := by
  rw [Reconciler.carryOutStep, unassigned]
  rfl

/-- What a deletion of a record has sent, the client can send. -/
theorem canSend_of_sends_delete
    {before : Overheard State}
    {exchanges : List HttpExchange}
    (added : (((client.reconciler newId).carryOutStep intentId now created (.delete record)).run
      before).2.exchanges = before.exchanges ++ exchanges)
    (sent : exchanges.map (·.request) = [client.deletion record.externalId]) :
    isAssigned record.externalId = true ∧ client.CanSend (client.deletion record.externalId) := by
  obtain ⟨exchange, rfl, isDeletion⟩ := List.map_eq_singleton_iff.mp sent
  cases assigned : isAssigned record.externalId with
  | false =>
      rw [run_delete_of_unassigned assigned] at added
      exact absurd (List.self_eq_append_right.mp added) (List.cons_ne_nil _ _)
  | true =>
      refine ⟨rfl, ?_⟩
      rw [Reconciler.carryOutStep, if_pos assigned] at added
      have sends := (client.sends_delete record.externalId).call record.policy.user
        fun _ => ((none : Option PolicyRecord), some (AppliedStep.deleted record))
      obtain ⟨sentHere, addedHere, answer, run, -⟩ := sends before
      obtain rfl : [exchange] = sentHere := List.append_cancel_left (added.symm.trans addedHere)
      rw [← isDeletion]
      cases run with
      | failed inOrder => exact inOrder.canSend exchange (List.mem_singleton_self exchange)
      | finished inOrder _ => exact inOrder.canSend exchange (List.mem_singleton_self exchange)

/--
What a step sends is added to the exchanges.  A record with an identifier is deleted by a request
that succeeds, and updated by saving the policy under its identifier.
-/
theorem sent_of_stepRun
    {step : PlanStep}
    {result : Except Interruption (Option PolicyRecord × Option AppliedStep)}
    {before after : Overheard State}
    (assigned : isAssigned record.externalId = true)
    (run : (client.reconciler newId).StepRun intentId now created before step result after) :
    ∃ exchanges, after.exchanges = before.exchanges ++ exchanges ∧
      (∀ left, result = .ok (left, some (.deleted record)) → ∃ exchange ∈ exchanges,
        exchange.request = client.deletion record.externalId ∧ exchange.Succeeds) ∧
      ∀ policy done, step = .update record policy → result = .ok done →
        client.Saves policy record.externalId exchanges none := by
  cases run with
  | @deleted other _ _ answered =>
      obtain ⟨exchanges, added, run⟩ := (client.sends_delete _).of_run answered
      refine ⟨exchanges, added, ?_, fun _ _ other => nomatch other⟩
      rintro _ ⟨⟩
      cases run with
      | finished inOrder _ =>
          obtain ⟨allSent, succeed⟩ := inOrder.isPrefix.2.mp rfl
          obtain ⟨exchange, rfl, isDeletion⟩ := List.map_eq_singleton_iff.mp allSent
          have member := List.mem_singleton_self exchange
          exact ⟨exchange, member, isDeletion, succeed exchange member⟩
  | dropped unassigned =>
      refine ⟨[], (List.append_nil _).symm, ?_, fun _ _ other => nomatch other⟩
      rintro _ ⟨⟩
      exact absurd (assigned.symm.trans unassigned) nofun
  | unchanged =>
      exact ⟨[], (List.append_nil _).symm, fun _ other => (nomatch other),
        fun _ _ other => nomatch other⟩
  | updated _ answered =>
      obtain ⟨exchanges, added, failure, saves, -, isOk⟩ :=
        (client.sends_update _ _).of_run answered
      obtain rfl := isOk.mp rfl
      refine ⟨exchanges, added, fun _ other => (nomatch other), ?_⟩
      rintro policy _ ⟨⟩ _
      exact saves
  | registered unassigned answered =>
      obtain ⟨exchanges, added, -⟩ := (client.sends_create _).of_run answered
      refine ⟨exchanges, added, fun _ other => (nomatch other), ?_⟩
      rintro policy _ ⟨⟩ _
      exact absurd (assigned.symm.trans unassigned) nofun
  | created answered named =>
      obtain ⟨exchanges, added, -⟩ := (client.sends_create _).of_run answered
      obtain ⟨-, rfl⟩ := Prod.mk.inj named
      exact ⟨exchanges, added, fun _ other => (nomatch other), fun _ _ other => nomatch other⟩
  | @refused _ call _ _ _ answered =>
      cases call with
      | create policy =>
          obtain ⟨exchanges, added, -⟩ := (client.sends_create _).of_run answered
          exact ⟨exchanges, added, fun _ other => (nomatch other), fun _ _ _ other => nomatch other⟩
      | update externalId policy =>
          obtain ⟨exchanges, added, -⟩ := (client.sends_update _ _).of_run answered
          exact ⟨exchanges, added, fun _ other => (nomatch other), fun _ _ _ other => nomatch other⟩
      | delete externalId =>
          obtain ⟨exchanges, added, -⟩ := (client.sends_delete _).of_run answered
          exact ⟨exchanges, added, fun _ other => (nomatch other), fun _ _ _ other => nomatch other⟩

end Step

/-- What a plan sends is what its steps send, one behind the other. -/
theorem sent_of_planRun
    {steps : List PlanStep}
    {execution final : Execution}
    {before after : Overheard State}
    (assigned : isAssigned record.externalId = true)
    (run : (client.reconciler newId).PlanRun intentId now steps execution before final after) :
    ∃ exchanges, after.exchanges = before.exchanges ++ exchanges ∧
      (AppliedStep.deleted record ∈ final.applied → AppliedStep.deleted record ∈ execution.applied ∨
        ∃ exchange ∈ exchanges,
          exchange.request = client.deletion record.externalId ∧ exchange.Succeeds) ∧
      (final.interruption = none → ∀ policy, PlanStep.update record policy ∈ steps →
        ∃ saving, saving <:+: exchanges ∧ client.Saves policy record.externalId saving none) := by
  induction run with
  | finished => exact ⟨[], (List.append_nil _).symm, .inl, fun _ _ => nofun⟩
  | stopped run =>
      obtain ⟨exchanges, added, -, -⟩ := sent_of_stepRun assigned run
      exact ⟨exchanges, added, .inl, nofun⟩
  | @stepped step rest execution final left change before reached after run _
      inductionHypothesis =>
      obtain ⟨exchanges, added, deletes, saves⟩ := sent_of_stepRun assigned run
      obtain ⟨more, addedMore, deletesBehind, savesBehind⟩ := inductionHypothesis
      refine ⟨exchanges ++ more, ?_, fun isApplied => ?_, fun finished policy planned => ?_⟩
      · rw [addedMore, added, List.append_assoc]
      · rcases deletesBehind isApplied with noted | ⟨exchange, member, isDeletion⟩
        · rcases List.mem_append.mp noted with earlier | isHere
          · exact Or.inl earlier
          · obtain rfl := Option.mem_toList.mp isHere
            obtain ⟨exchange, member, isDeletion⟩ := deletes left rfl
            exact Or.inr ⟨exchange, List.mem_append_left _ member, isDeletion⟩
        · exact Or.inr ⟨exchange, List.mem_append_right _ member, isDeletion⟩
      · rcases List.mem_cons.mp planned with isHere | behind
        · exact ⟨exchanges, (List.prefix_append _ _).isInfix, saves policy _ isHere.symm rfl⟩
        · obtain ⟨saving, within, isSaving⟩ := savesBehind finished policy behind
          exact ⟨saving, within.trans (List.suffix_append _ _).isInfix, isSaving⟩

end DecisionPoint

/--
Whatever a server answers, a policy that the client tells it has created is not forgotten exactly
if its identifier is not blank, a segment can stand for it, and the address for deleting it is
not too long.
-/
theorem created_policy_is_remembered_iff
    {State : Type}
    {client : DecisionPoint State}
    {policy : Policy}
    {record : PolicyRecord}
    {before after : State}
    {segments : List String}
    (hierarchicalBase : client.baseUrl.path = .hierarchical segments)
    (created : (client.enforcement.create policy).run before = (.ok record.externalId, after)) :
    client.IsRemembered record ↔
      isAllBlank record.externalId = false ∧ UrlPath.IsAddressable record.externalId ∧
        (client.deletion record.externalId).url.text.utf8ByteSize ≤ longestRequestUrl := by
  have assignedIff :
      isAssigned record.externalId = true ↔ isAllBlank record.externalId = false := by
    rw [isAssigned, Bool.not_eq_true']
  have plain : ∀ name ∈ ["api", "policy"], UrlPath.IsPlainName name := by decide +kernel
  have pathEq : (client.deletion record.externalId).url.path =
      (UrlPath.hierarchical segments).appending (isSpecialScheme client.baseUrl.scheme)
        (["api", "policy"] ++ [record.externalId]) :=
    congrArg Url.path (DecisionPoint.endpoint_eq_of_base hierarchicalBase _)
  constructor
  · rintro ⟨⟨_, last, sameBase, isPath, decoded⟩, updated, deleted, carriedOut⟩
    obtain rfl := UrlPath.hierarchical.inj (hierarchicalBase.symm.trans sameBase)
    obtain ⟨exchanges, added, sent, -⟩ := deleted (pure "") "" ⟨0, 0⟩ 0 ⟨before, []⟩
    obtain ⟨assigned, sendable⟩ := DecisionPoint.canSend_of_sends_delete added sent
    have requestable := sendable.requestable
    rw [Url.isRequestable, Bool.and_eq_true, decide_eq_true_eq] at requestable
    refine ⟨assignedIff.mp assigned, ?_, requestable.2⟩
    exact (UrlPath.exists_appending_iff (List.cons_ne_nil _ _) plain).mp
      ⟨last, pathEq.symm.trans isPath, decoded⟩
  · rintro ⟨notBlank, addressable, short⟩
    have assigned := assignedIff.mpr notBlank
    have sendable := DecisionPoint.canSend_deletion_of_create created short
    obtain ⟨last, appended, decoded⟩ :=
      (UrlPath.exists_appending_iff (List.cons_ne_nil _ _) plain).mpr addressable
    refine ⟨⟨segments, last, hierarchicalBase, pathEq.trans appended, decoded⟩, ?_, ?_, ?_⟩
    · exact fun _ _ _ _ => DecisionPoint.sends_update_of_assigned assigned
    · exact fun _ _ _ _ => DecisionPoint.sends_delete_of_assigned assigned sendable
    · intro newId intentId now steps start run
      obtain ⟨exchanges, added, deletes, saves⟩ := DecisionPoint.sent_of_planRun assigned
        ((client.reconciler newId).planRun intentId now steps {} start)
      refine ⟨exchanges, added, fun isApplied => ?_, fun finished policy planned => ?_⟩
      · exact (deletes isApplied).resolve_left List.not_mem_nil
      · obtain ⟨saving, within, isSaving⟩ := saves finished policy planned
        obtain ⟨exchange, member, isPosting⟩ := isSaving.exists_posting
        have posts := client.posts_posting policy record.externalId
        exact ⟨saving, within, isSaving, exchange, member, isPosting ▸ posts⟩

/-- A decision point that saves every policy under one identifier. -/
def DecisionPoint.naming (externalId : String) : DecisionPoint Unit where
  baseUrl := ⟨"http", some ⟨"", none, "pdp", none⟩, .hierarchical [""], none, none⟩
  token := none
  windows := {}
  transport _ := pure (some ⟨201, "\x7b\"policy\":\x7b\"_id\":\"" ++ externalId ++ "\"\x7d\x7d"⟩)

/-- A policy that was given an identifier of letters. -/
theorem created_policy_is_remembered_by_letters :
    let client := DecisionPoint.naming "p1"
    let record : PolicyRecord := ⟨"r1", "i1", "p1", .baselineFor "ann", ⟨0, 0⟩, ⟨0, 0⟩⟩
    (client.enforcement.create record.policy).run () = (.ok record.externalId, ()) ∧
      client.IsRemembered record := by
  intro client record
  have hierarchicalBase : client.baseUrl.path = .hierarchical [""] := rfl
  have created : ((DecisionPoint.naming "p1").enforcement.create (.baselineFor "ann")).run () =
      (.ok "p1", ()) := by rfl
  have addressable : UrlPath.IsAddressable "p1" := by decide +kernel
  have short : ((DecisionPoint.naming "p1").deletion "p1").url.text.utf8ByteSize ≤
      longestRequestUrl := by decide +kernel
  exact ⟨created, (created_policy_is_remembered_iff hierarchicalBase created).mpr
    ⟨by decide, addressable, short⟩⟩

/-- A policy whose identifier is one blank: its creation is told to have succeeded, but an update
creates it again under no identifier, and it is told to be deleted without a request. -/
theorem created_policy_is_forgotten_by_blank :
    let client := DecisionPoint.naming " "
    let record : PolicyRecord := ⟨"r1", "i1", " ", .baselineFor "ann", ⟨0, 0⟩, ⟨0, 0⟩⟩
    let policy : Policy := .baselineFor "bob"
    let step := (client.reconciler (pure "r2")).carryOutStep "i1" ⟨1, 0⟩ 0
    let update := (step (.update record policy)).run ⟨(), []⟩
    let deletion := (step (.delete record)).run ⟨(), []⟩
    (client.enforcement.create record.policy).run () = (.ok record.externalId, ()) ∧
      ¬ client.IsRemembered record ∧
      update.2.exchanges.map (·.request) = [client.posting policy ""] ∧
      deletion.1 = .ok (none, some (.deleted record)) ∧ deletion.2.exchanges = [] := by
  have created : ((DecisionPoint.naming " ").enforcement.create (.baselineFor "ann")).run () =
      (.ok " ", ()) := by rfl
  have sentAgain : ((((DecisionPoint.naming " ").reconciler (pure "r2")).carryOutStep "i1" ⟨1, 0⟩ 0
        (.update ⟨"r1", "i1", " ", .baselineFor "ann", ⟨0, 0⟩, ⟨0, 0⟩⟩ (.baselineFor "bob"))).run
          ⟨(), []⟩).2.exchanges.map (·.request) =
      [(DecisionPoint.naming " ").posting (.baselineFor "bob") ""] := by
    with_unfolding_all rfl
  have unassigned : isAssigned " " = false := by decide
  refine ⟨created, fun remembered => ?_, sentAgain, ?_, ?_⟩
  · obtain ⟨exchanges, added, sent, -⟩ := remembered.deleted (pure "r2") "i1" ⟨1, 0⟩ 0 ⟨(), []⟩
    have assigned := (DecisionPoint.canSend_of_sends_delete added sent).1
    exact absurd (assigned.symm.trans unassigned) (by decide)
  · rw [DecisionPoint.run_delete_of_unassigned (by exact unassigned)]
  · rw [DecisionPoint.run_delete_of_unassigned (by exact unassigned)]

end IntentPolicy
