import IntentPolicy.Proofs.Policy.Refining
import IntentPolicy.Proofs.Service.Mirroring
import IntentPolicy.Proofs.Service.Tally

namespace IntentPolicy

/-!
# What every operation leaves

Whatever enforcement answers, what is stored can be told apart by identifiers that have been
drawn, records belong to such identifiers, and the text of every intent is a sentence.
-/

namespace MemoryStore

variable {store : MemoryStore} {intent : IntentRecord} {id : String}

/-- Changes of records leave the intents alone. -/
theorem intents_withChanges
    (changes : List AppliedStep) :
    (store.withChanges changes).intents = store.intents := by
  induction changes generalizing store with
  | nil => rfl
  | cons change changes inductionHypothesis =>
      have sameIntents : (store.withChange change).intents = store.intents := by
        cases change <;> rfl
      exact inductionHypothesis.trans sameIntents

theorem findIntent_withChanges
    (changes : List AppliedStep) :
    (store.withChanges changes).findIntent id = store.findIntent id := by
  rw [findIntent, intents_withChanges, findIntent]

theorem stored_of_findIntent
    (found : store.findIntent id = some intent) :
    intent ∈ store.intents ∧ intent.id = id := by
  have sameId := List.find?_some found
  exact ⟨List.mem_of_find?_eq_some found, beq_iff_eq.mp sameId⟩

/-- An intent that is saved is found, unless it was created at another time. -/
theorem findIntent_saveIntent
    (sameCreation : ∀ held ∈ store.findIntent intent.id, held.createdAt = intent.createdAt) :
    (store.saveIntent intent).findIntent intent.id = some intent := by
  have kept : ((store.findIntent intent.id).map (·.createdAt)).getD intent.createdAt =
      intent.createdAt := by
    cases found : store.findIntent intent.id with
    | none => rfl
    | some held => exact sameCreation held found
  have othersOnly :
      (store.intents.filter (·.id != intent.id)).find? (·.id == intent.id) = none := by
    simp
  rw [findIntent, saveIntent, kept, List.find?_append, othersOnly]
  simp

theorem findIntent_deleteIntent_of_ne
    {other : String}
    (apart : id ≠ other) :
    (store.deleteIntent other).findIntent id = store.findIntent id := by
  rw [findIntent, deleteIntent, List.find?_filter, findIntent]
  congr 1
  funext intent
  by_cases sameId : intent.id = id
  · simp [sameId, apart]
  · simp [sameId]

theorem findIntent_deleteIntent
    (id : String) :
    (store.deleteIntent id).findIntent id = none := by
  simp [findIntent, deleteIntent]

theorem findIntent_saveIntent_of_ne
    (apart : id ≠ intent.id) :
    (store.saveIntent intent).findIntent id = store.findIntent id := by
  rw [findIntent, saveIntent, List.find?_append, ← findIntent_deleteIntent_of_ne apart]
  simp [findIntent, deleteIntent, apart.symm]

/-- What saving an intent does to the intents does not depend on what else is stored. -/
theorem intents_saveIntent
    {twin : MemoryStore}
    (sameIntents : store.intents = twin.intents) :
    (store.saveIntent intent).intents = (twin.saveIntent intent).intents := by
  rw [saveIntent, saveIntent, findIntent, findIntent, sameIntents]

/-- All that an operation on one intent can do to the stored intents. -/
inductive IntentsChange (id : String) (before : MemoryStore) : List IntentRecord → Prop
  | unchanged : IntentsChange id before before.intents
  | saved {entered : IntentRecord}
      (ofId : entered.id = id)
      (readable : ∃ sentence, parseSentence entered.text = .ok sentence) :
      IntentsChange id before (before.saveIntent entered).intents
  | deleted : IntentsChange id before (before.deleteIntent id).intents

theorem IntentsChange.findIntent_of_ne
    {before : MemoryStore}
    {intents : List IntentRecord}
    {other : String}
    (change : IntentsChange id before intents)
    (apart : other ≠ id) :
    intents.find? (·.id == other) = before.findIntent other := by
  cases change with
  | unchanged => rfl
  | saved ofId => exact findIntent_saveIntent_of_ne (ofId ▸ apart)
  | deleted => exact findIntent_deleteIntent_of_ne apart

/-- What is stored was stored before, or is a sentence that has been entered. -/
theorem IntentsChange.mem
    {before : MemoryStore}
    {intents : List IntentRecord}
    (change : IntentsChange id before intents)
    (member : intent ∈ intents) :
    intent ∈ before.intents ∨
      intent.id = id ∧ ∃ sentence, parseSentence intent.text = .ok sentence := by
  cases change with
  | unchanged => exact Or.inl member
  | saved ofId readable =>
      rcases List.mem_append.mp member with among | saved
      · exact Or.inl (List.mem_filter.mp among).1
      · rw [List.mem_singleton.mp saved]
        exact Or.inr ⟨ofId, readable⟩
  | deleted => exact Or.inl (List.mem_filter.mp member).1

end MemoryStore

/--
What is stored can be told apart: records have identifiers of their own, identifiers of records
and intents have been drawn, and every intent is a sentence.
-/
structure MemoryWorld.IsSound {Client : Type} (identifiers : Nat → String)
    (world : MemoryWorld Client) : Prop where
  distinctIds : (world.store.records.map (·.id)).Nodup
  identified : ∀ record ∈ world.store.records, IsDrawn identifiers world.drawn record.id
  belonging : ∀ record ∈ world.store.records, IsDrawn identifiers world.drawn record.intentId
  entered : ∀ intent ∈ world.store.intents, IsDrawn identifiers world.drawn intent.id
  readable : ∀ intent ∈ world.store.intents, ∃ sentence, parseSentence intent.text = .ok sentence

variable {Client : Type} {deployment : Deployment Client} {identifiers : Nat → String}
  {start before reached after : MemoryWorld Client} {intentId : String} {policies : List Policy}
  {now : Instant} {execution : Execution}

namespace MemoryWorld.IsSound

theorem of_empty
    (noIntents : start.store.intents = [])
    (noRecords : start.store.records = []) :
    start.IsSound identifiers := by
  constructor <;> simp [noIntents, noRecords]

theorem recordsOf_next
    (sound : before.IsSound identifiers)
    (fresh : Function.Injective identifiers) :
    before.store.recordsOf (identifiers before.drawn) = [] := by
  rw [MemoryStore.recordsOf, List.filter_eq_nil_iff]
  intro record member
  rw [beq_iff_eq]
  exact (sound.belonging record member).ne_next fresh

theorem findIntent_next
    (sound : before.IsSound identifiers)
    (fresh : Function.Injective identifiers) :
    before.store.findIntent (identifiers before.drawn) = none := by
  rw [MemoryStore.findIntent, List.find?_eq_none]
  intro intent member
  rw [beq_iff_eq]
  exact (sound.entered intent member).ne_next fresh

/-- An identifier under which an intent is found has been drawn. -/
theorem isDrawn_of_found
    {held : IntentRecord}
    (sound : before.IsSound identifiers)
    (found : before.store.findIntent intentId = some held) :
    IsDrawn identifiers before.drawn intentId := by
  obtain ⟨stored, rfl⟩ := MemoryStore.stored_of_findIntent found
  exact sound.entered held stored

/-- Enforcing the policies of a new intent makes progress with its records. -/
theorem progress_of_enroll
    (sound : before.IsSound deployment.identifiers)
    (fresh : Function.Injective deployment.identifiers)
    (ran : deployment.reconciler.enroll (deployment.identifiers before.drawn) policies now
      { before with drawn := before.drawn + 1 } = (execution, reached)) :
    ∃ done rest, Progress deployment.identifiers (deployment.identifiers before.drawn) now
      (planReconciliation [] policies) { before with drawn := before.drawn + 1 } execution reached
      done rest := by
  refine progress_of_reconcile fresh sound.distinctIds ?_ ?_ ran
  · exact fun record member => (sound.identified record member).mono (Nat.le_succ _)
  · rw [sound.recordsOf_next fresh]

theorem progress_of_listed
    (sound : before.IsSound deployment.identifiers)
    (fresh : Function.Injective deployment.identifiers)
    (ran : deployment.reconciler.reconcile intentId (before.store.listRecords intentId) policies
      now before = (execution, reached)) :
    ∃ done rest, Progress deployment.identifiers intentId now
      (planReconciliation (before.store.listRecords intentId) policies) before execution reached
      done rest :=
  progress_of_reconcile fresh sound.distinctIds sound.identified
    (before.store.listRecords_perm intentId) ran

theorem progress_of_retired
    (sound : before.IsSound deployment.identifiers)
    (fresh : Function.Injective deployment.identifiers)
    (ran : deployment.reconciler.retire intentId (before.store.listRecords intentId) before =
      (execution, reached)) :
    ∃ done rest, Progress deployment.identifiers intentId ⟨0, 0⟩
      (planRetirement (before.store.listRecords intentId)) before execution reached done rest := by
  rw [Reconciler.retire_eq_reconcile] at ran
  rw [planRetirement_eq]
  exact sound.progress_of_listed fresh ran

/-- Enforcing the policies of a new intent keeps count of its records. -/
theorem tallying_of_enroll
    (sound : before.IsSound deployment.identifiers)
    (fresh : Function.Injective deployment.identifiers)
    (ran : deployment.reconciler.enroll (deployment.identifiers before.drawn) policies now
      { before with drawn := before.drawn + 1 } = (execution, reached)) :
    ∃ untreated, Tallying deployment.identifiers (deployment.identifiers before.drawn)
        { before with drawn := before.drawn + 1 } execution reached untreated ∧
      (execution.interruption = none → untreated = []) := by
  obtain ⟨_, _, progress⟩ := sound.progress_of_enroll fresh ran
  exact progress.untreated

theorem tallying_of_listed
    (sound : before.IsSound deployment.identifiers)
    (fresh : Function.Injective deployment.identifiers)
    (ran : deployment.reconciler.reconcile intentId (before.store.listRecords intentId) policies
      now before = (execution, reached)) :
    ∃ untreated, Tallying deployment.identifiers intentId before execution reached untreated ∧
      (execution.interruption = none → untreated = []) := by
  obtain ⟨_, _, progress⟩ := sound.progress_of_listed fresh ran
  exact progress.untreated

theorem tallying_of_retired
    (sound : before.IsSound deployment.identifiers)
    (fresh : Function.Injective deployment.identifiers)
    (ran : deployment.reconciler.retire intentId (before.store.listRecords intentId) before =
      (execution, reached)) :
    ∃ untreated, Tallying deployment.identifiers intentId before execution reached untreated ∧
      (execution.interruption = none → untreated = []) := by
  obtain ⟨_, _, progress⟩ := sound.progress_of_retired fresh ran
  exact progress.untreated

end MemoryWorld.IsSound

/--
An operation on one intent has led from one world to another: that intent has the records
listed, and nothing is stored for other intents but what was stored before.
-/
structure Changed (identifiers : Nat → String) (intentId : String)
    (before after : MemoryWorld Client) (records : List PolicyRecord) : Prop where
  drawnLe : before.drawn ≤ after.drawn
  isDrawn : IsDrawn identifiers after.drawn intentId
  intents : MemoryStore.IntentsChange intentId before.store after.store.intents
  tally : Tally identifiers after.drawn intentId before.store after.store records

theorem Changed.isSound
    {records : List PolicyRecord}
    (changed : Changed identifiers intentId before after records)
    (sound : before.IsSound identifiers) :
    after.IsSound identifiers := by
  obtain ⟨drawnLe, isDrawn, intents, tally⟩ := changed
  refine ⟨tally.distinctIds, tally.identified, ?belonging, ?entered, ?readable⟩
  case belonging =>
    -- A record of another intent was stored before, when that identifier had been drawn.
    intro record member
    by_cases ofIntent : record.intentId = intentId
    · exact ofIntent ▸ isDrawn
    · have ofOther := MemoryStore.mem_recordsOf.mpr ⟨member, rfl⟩
      rw [tally.others _ ofIntent] at ofOther
      exact (sound.belonging record (MemoryStore.mem_recordsOf.mp ofOther).1).mono drawnLe
  case entered =>
    intro intent member
    rcases intents.mem member with stored | ⟨sameId, -⟩
    · exact (sound.entered intent stored).mono drawnLe
    · exact sameId ▸ isDrawn
  case readable =>
    intro intent member
    rcases intents.mem member with stored | ⟨-, isSentence⟩
    · exact sound.readable intent stored
    · exact isSentence

/-- Storing the changes of an execution leaves the records that have been counted. -/
theorem Tallying.changed
    {untreated : List PolicyRecord}
    (tallying : Tallying identifiers intentId before execution reached untreated)
    (isDrawn : IsDrawn identifiers before.drawn intentId)
    (sameDrawn : after.drawn = reached.drawn)
    (sameRecords : after.store.records = (before.store.withChanges execution.applied).records)
    (intents : MemoryStore.IntentsChange intentId before.store after.store.intents) :
    Changed identifiers intentId before after (execution.records ++ untreated) := by
  obtain ⟨-, drawnLe, tally⟩ := tallying
  rw [← sameDrawn] at drawnLe tally
  exact ⟨drawnLe, isDrawn.mono drawnLe, intents, tally.of_same sameRecords⟩

/-- What has changed since an identifier was drawn has changed since before. -/
theorem Changed.of_drawn
    {records : List PolicyRecord}
    (changed : Changed identifiers intentId { before with drawn := before.drawn + 1 } after
      records) :
    Changed identifiers intentId before after records :=
  { changed with drawnLe := Nat.le_of_succ_le changed.drawnLe }

/-- The intent that a call is about; a new one is about to get the next identifier. -/
def ServiceCall.subject? (next : String) : ServiceCall → Option String
  | .create _ _ _ => some next
  | .update id _ _ => some id
  | .delete id => some id
  | .saveRate _ => none

/-- A call that is about no intent only stores a rate. -/
theorem ServiceCall.eq_saveRate_of_subject?
    {call : ServiceCall}
    {next : String}
    (noSubject : call.subject? next = none) :
    ∃ rate, call = .saveRate rate := by
  cases call with
  | create => cases noSubject
  | update => cases noSubject
  | delete => cases noSubject
  | saveRate rate => exact ⟨rate, rfl⟩

/-- All that a call can do to intents and records: nothing, or something for one intent. -/
inductive ServeRun (identifiers : Nat → String) (call : ServiceCall)
    (before after : MemoryWorld Client) : Prop
  | untouched
      (drawn : after.drawn = before.drawn)
      (intents : after.store.intents = before.store.intents)
      (records : after.store.records = before.store.records)
  | changed {intentId : String} {records : List PolicyRecord}
      (subject : call.subject? (identifiers before.drawn) = some intentId)
      (changed : Changed identifiers intentId before after records)

namespace Deployment

/-- The text of an intent whose sentence was translated can be parsed. -/
theorem readable_of_entry
    {store : MemoryStore}
    {text : String}
    {sentence : Intent}
    (translated : deployment.translation store text = .ok (sentence, policies))
    (entered : IntentRecord)
    (entry : entered.text = trimmed text) :
    ∃ sentence, parseSentence entered.text = .ok sentence := by
  rw [translation, ← Translator.refine_trimmed] at translated
  rw [entry]
  exact ⟨sentence, (Translator.parsed_of_refine translated).1⟩

theorem CreateRun.serveRun
    {owner text : String}
    {answer : Except ServiceError IntentView}
    (run : deployment.CreateRun owner text now before answer after)
    (fresh : Function.Injective deployment.identifiers)
    (sound : before.IsSound deployment.identifiers) :
    ServeRun deployment.identifiers (.create owner text now) before after := by
  have isDrawn : IsDrawn deployment.identifiers (before.drawn + 1)
      (deployment.identifiers before.drawn) := ⟨before.drawn, Nat.lt_succ_self _, rfl⟩
  cases run with
  | refused => exact .untouched rfl rfl rfl
  | @interrupted _ _ _ entered execution _ reached named entry translated ran =>
      subst named
      obtain ⟨untreated, tallying, -⟩ := sound.tallying_of_enroll fresh ran
      have readable := readable_of_entry translated entered (congrArg IntentRecord.text entry)
      refine .changed rfl (Changed.of_drawn (tallying.changed isDrawn rfl ?_ ?_))
      · refine MemoryStore.records_withChanges ?_ _
        rw [tallying.store]
        split <;> rfl
      · change MemoryStore.IntentsChange _ _
          ((if execution.applied.isEmpty then reached.store
            else reached.store.saveIntent entered).withChanges execution.applied).intents
        rw [MemoryStore.intents_withChanges, tallying.store]
        -- The intent is stored only if some change was applied for it.
        split
        · exact .unchanged
        · exact .saved (congrArg IntentRecord.id entry) readable
  | @completed _ _ _ entered execution reached named entry translated ran =>
      subst named
      obtain ⟨untreated, tallying, -⟩ := sound.tallying_of_enroll fresh ran
      have readable := readable_of_entry translated entered (congrArg IntentRecord.text entry)
      refine .changed rfl (Changed.of_drawn (tallying.changed isDrawn rfl ?_ ?_))
      · refine MemoryStore.records_withChanges ?_ _
        rw [tallying.store]
        rfl
      · change MemoryStore.IntentsChange _ _
          ((reached.store.saveIntent entered).withChanges execution.applied).intents
        rw [MemoryStore.intents_withChanges, tallying.store]
        exact .saved (congrArg IntentRecord.id entry) readable

theorem UpdateRun.serveRun
    {id text : String}
    {answer : Except ServiceError IntentView}
    (run : deployment.UpdateRun id text now before answer after)
    (fresh : Function.Injective deployment.identifiers)
    (sound : before.IsSound deployment.identifiers) :
    ServeRun deployment.identifiers (.update id text now) before after := by
  cases run with
  | refused => exact .untouched rfl rfl rfl
  | @interrupted _ _ _ execution _ reached found _ ran =>
      obtain ⟨untreated, tallying, -⟩ := sound.tallying_of_listed fresh ran
      refine .changed rfl (tallying.changed (sound.isDrawn_of_found found) rfl ?_ ?_)
      · exact MemoryStore.records_withChanges (congrArg _ tallying.store) _
      · change MemoryStore.IntentsChange _ _ (reached.store.withChanges execution.applied).intents
        rw [MemoryStore.intents_withChanges, tallying.store]
        exact .unchanged
  | @completed held _ _ execution reached found translated ran =>
      obtain ⟨untreated, tallying, -⟩ := sound.tallying_of_listed fresh ran
      let updated : IntentRecord := { held with text := trimmed text, updatedAt := now }
      have ofId : updated.id = id := (MemoryStore.stored_of_findIntent found).2
      refine .changed rfl (tallying.changed (sound.isDrawn_of_found found) rfl ?_ ?_)
      · exact MemoryStore.records_withChanges (congrArg _ tallying.store) _
      · change MemoryStore.IntentsChange _ _
          ((reached.store.withChanges execution.applied).saveIntent updated).intents
        rw [MemoryStore.intents_saveIntent (MemoryStore.intents_withChanges _), tallying.store]
        exact .saved ofId (readable_of_entry translated updated rfl)

theorem DeleteRun.serveRun
    {id : String}
    {answer : Except ServiceError Nat}
    (run : deployment.DeleteRun id before answer after)
    (fresh : Function.Injective deployment.identifiers)
    (sound : before.IsSound deployment.identifiers) :
    ServeRun deployment.identifiers (.delete id) before after := by
  cases run with
  | refused => exact .untouched rfl rfl rfl
  | @interrupted _ execution _ reached found ran =>
      obtain ⟨untreated, tallying, -⟩ := sound.tallying_of_retired fresh ran
      refine .changed rfl (tallying.changed (sound.isDrawn_of_found found) rfl ?_ ?_)
      · exact MemoryStore.records_withChanges (congrArg _ tallying.store) _
      · change MemoryStore.IntentsChange _ _ (reached.store.withChanges execution.applied).intents
        rw [MemoryStore.intents_withChanges, tallying.store]
        exact .unchanged
  | @completed _ execution reached found ran =>
      obtain ⟨untreated, ⟨storeEq, drawnLe, -⟩, -⟩ := sound.tallying_of_retired fresh ran
      have isDrawn := (sound.isDrawn_of_found found).mono drawnLe
      -- All records go at once, whatever was applied, so they are counted from before the plan.
      have beforehand : Tally deployment.identifiers before.drawn id before.store before.store
          (before.store.recordsOf id) :=
        ⟨sound.distinctIds, sound.identified, .refl _, fun _ _ => rfl⟩
      have noRecords : Tally deployment.identifiers reached.drawn id before.store
          ((reached.store.deleteRecords id).deleteIntent id) [] := by
        rw [storeEq]
        exact (beforehand.draw drawnLe).deleteAll.of_same rfl
      refine .changed rfl ⟨drawnLe, isDrawn, ?_, noRecords⟩
      rw [← storeEq]
      exact .deleted

/-- Serving a call does what one of the cases says. -/
theorem serveRun
    (deployment : Deployment Client)
    (fresh : Function.Injective deployment.identifiers)
    (sound : before.IsSound deployment.identifiers)
    (call : ServiceCall) :
    ServeRun deployment.identifiers call before (deployment.serve before call) := by
  cases call with
  | create owner text now => exact (deployment.createRun owner text now before).serveRun fresh sound
  | update id text now => exact (deployment.updateRun id text now before).serveRun fresh sound
  | delete id => exact (deployment.deleteRun id before).serveRun fresh sound
  | saveRate rate => exact .untouched rfl rfl rfl

end Deployment

namespace ServeRun

variable {call : ServiceCall}

theorem drawnLe
    (run : ServeRun identifiers call before after) :
    before.drawn ≤ after.drawn := by
  cases run with
  | untouched drawn => exact Nat.le_of_eq drawn.symm
  | changed _ changed => exact changed.drawnLe

/-- Every call leaves what is stored sound. -/
theorem isSound
    (run : ServeRun identifiers call before after)
    (sound : before.IsSound identifiers) :
    after.IsSound identifiers := by
  cases run with
  | untouched drawn intents records =>
      obtain ⟨distinctIds, identified, belonging, entered, readable⟩ := sound
      rw [← drawn, ← records] at identified belonging
      rw [← drawn, ← intents] at entered
      rw [← records] at distinctIds
      rw [← intents] at readable
      exact ⟨distinctIds, identified, belonging, entered, readable⟩
  | changed _ changed => exact changed.isSound sound

end ServeRun

end IntentPolicy
