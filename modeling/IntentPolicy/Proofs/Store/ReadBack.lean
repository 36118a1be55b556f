import IntentPolicy.Proofs.Service.DatabaseOperations
import IntentPolicy.Proofs.Service.Soundness

namespace IntentPolicy

/-!
# What a database gives back

Whatever was written to a database before, a value that is saved is given back as an equal one.
Saving under a key that is held keeps the time of creation, and for a record its intent.  Rows are
listed in the order of their times, since the texts of times are ordered like the times are.
-/

/-- What is written to a store. -/
inductive StoreWrite where
  | saveIntent (intent : IntentRecord)
  | deleteIntent (id : String)
  | saveRecord (record : PolicyRecord)
  | deleteRecord (id : String)
  | deleteRecords (intentId : String)
  | saveRate (rate : ConversionRate)

/-- What is saved has times that clocks can show, in years of four digits. -/
def StoreWrite.IsDated : StoreWrite → Prop
  | .saveIntent intent =>
      intent.createdAt.IsTime ∧ intent.updatedAt.IsTime ∧ intent.IsWritable
  | .saveRecord record =>
      record.createdAt.IsTime ∧ record.updatedAt.IsTime ∧ record.IsWritable
  | .saveRate rate => rate.updatedAt.IsTime ∧ rate.updatedAt.IsWritable
  | .deleteIntent _ => True
  | .deleteRecord _ => True
  | .deleteRecords _ => True

/-- Rates that compare equal. -/
structure ConversionRate.SameAs (left right : ConversionRate) : Prop where
  fields : { left with rate := right.rate } = right
  rate : left.rate.sameValue right.rate = true

/-- Older than an intent that is not older in turn. -/
def IntentRecord.Precedes (left right : IntentRecord) : Prop :=
  right.isOlder left = false

namespace Database

/-- The database behind a write, whether it went through or failed. -/
def written (database : Database) : StoreWrite → Database
  | .saveIntent intent => ((repositories.saveIntent intent).run database).2
  | .deleteIntent id => ((repositories.deleteIntent id).run database).2
  | .saveRecord record => ((repositories.saveRecord record).run database).2
  | .deleteRecord id => ((repositories.deleteRecord id).run database).2
  | .deleteRecords intentId => ((repositories.deleteRecords intentId).run database).2
  | .saveRate rate => ((repositories.saveRate rate).run database).2

/-- The intent is found under its identifier. -/
def Finds (database : Database) (intent : IntentRecord) : Prop :=
  (repositories.findIntent intent.id).run database = (.ok (some intent), database)

/-- The record is listed among those of its intent. -/
def Lists (database : Database) (record : PolicyRecord) : Prop :=
  ∃ records, (repositories.listRecords record.intentId).run database = (.ok records, database) ∧
    record ∈ records

/-- An intent is saved with the time of creation that was held under its identifier, if one was,
and found again; other intents and all records are given back as before. -/
def GivesBackIntent (database : Database) (intent : IntentRecord) : Prop :=
  ∃ held saved, (repositories.findIntent intent.id).run database = (.ok held, database) ∧
    (repositories.saveIntent intent).run database = (.ok (), saved) ∧
    saved.Finds { intent with createdAt := (held.map (·.createdAt)).getD intent.createdAt } ∧
    (∀ other : IntentRecord, other.id ≠ intent.id → (saved.Finds other ↔ database.Finds other)) ∧
    ∀ record, saved.Lists record ↔ database.Lists record

/-- A record is saved and listed as an equal one, beside those that are listed already. -/
def GivesBackNew (database : Database) (record : PolicyRecord) : Prop :=
  ∃ saved back, (repositories.saveRecord record).run database = (.ok (), saved) ∧
    record.SameAs back ∧ (∀ other, saved.Lists other ↔ database.Lists other ∨ other = back) ∧
    ∀ intent, saved.Finds intent ↔ database.Finds intent

/-- A record is saved in place of another one, of which the intent and the time of creation are
kept, and listed as an equal one. -/
def GivesBackMerged (database : Database) (held record : PolicyRecord) : Prop :=
  ∃ saved back, (repositories.saveRecord record).run database = (.ok (), saved) ∧
    PolicyRecord.SameAs
      { record with intentId := held.intentId, createdAt := held.createdAt } back ∧
    (∀ other, saved.Lists other ↔ database.Lists other ∧ other ≠ held ∨ other = back) ∧
    ∀ intent, saved.Finds intent ↔ database.Finds intent

/-- A rate is saved in place of the one of its currency, and found and listed as an equal one. -/
def GivesBackRate (database : Database) (rate : ConversionRate) : Prop :=
  ∃ rates saved back, repositories.listRates.run database = (.ok rates, database) ∧
    (repositories.saveRate rate).run database = (.ok (), saved) ∧ rate.SameAs back ∧
    (repositories.findRate rate.currency).run saved = (.ok (some back.rate), saved) ∧
    ∃ ratesNow, repositories.listRates.run saved = (.ok ratesNow, saved) ∧
      ratesNow.Perm (rates.filter (·.currency != rate.currency) ++ [back])

/-- The intents of an owner are listed in the order of creation. -/
def ListsIntentsInOrder (database : Database) (owner : String) : Prop :=
  ∃ intents, (repositories.listIntents owner).run database = (.ok intents, database) ∧
    intents.Pairwise IntentRecord.Precedes ∧
    ∀ intent, intent ∈ intents ↔ intent.owner = owner ∧ database.Finds intent

/-- The records of an intent are listed in the order of creation. -/
def ListsRecordsInOrder (database : Database) (intentId : String) : Prop :=
  ∃ records, (repositories.listRecords intentId).run database = (.ok records, database) ∧
    records.Pairwise PolicyRecord.Precedes ∧ ∀ record ∈ records, record.intentId = intentId

/-- A database gives back what is saved, new or under a key that is held, and lists in order. -/
structure GivesBack (database : Database) : Prop where
  intents : ∀ intent : IntentRecord, intent.IsStorable → intent.IsWritable →
    database.GivesBackIntent intent
  newRecords : ∀ record : PolicyRecord, record.IsStorable → record.IsWritable →
    (∃ intent, database.Finds intent ∧ intent.id = record.intentId) →
    (∀ held, database.Lists held → held.id ≠ record.id) → database.GivesBackNew record
  heldRecords : ∀ held record : PolicyRecord, record.IsStorable → record.IsWritable →
    database.Lists held → held.id = record.id → database.GivesBackMerged held record
  rates : ∀ rate : ConversionRate, rate.updatedAt.IsWhole → rate.updatedAt.IsWritable →
    database.GivesBackRate rate
  intentsInOrder : ∀ owner, database.ListsIntentsInOrder owner
  recordsInOrder : ∀ intentId, database.ListsRecordsInOrder intentId

/-- A value that can be read is answered. -/
theorem Reads.answer_eq
    {Value : Type}
    {readable : Prop}
    {value : Value}
    {database : Database}
    {outcome : Except StoreError Value × Database}
    (reads : Reads readable value database outcome)
    (isReadable : readable) :
    outcome = (.ok value, database) := by
  cases reads with
  | answered => rfl
  | unreadable notReadable => exact absurd isReadable notReadable

end Database

namespace MemoryStore

variable {store : MemoryStore} {intent : IntentRecord} {record other : PolicyRecord}

/-- An intent is found as it was saved, with the time of creation that was held. -/
theorem findIntent_of_saved
    (store : MemoryStore)
    (intent : IntentRecord) :
    (store.saveIntent intent).findIntent intent.id = some { intent with
      createdAt := ((store.findIntent intent.id).map (·.createdAt)).getD intent.createdAt } := by
  let merged : IntentRecord := { intent with
    createdAt := ((store.findIntent intent.id).map (·.createdAt)).getD intent.createdAt }
  have sameCreation : ∀ held ∈ store.findIntent merged.id, held.createdAt = merged.createdAt := by
    intro held found
    simp only [merged, show store.findIntent intent.id = some held from found, Option.map_some,
      Option.getD_some]
  have sameStore : store.saveIntent intent = store.saveIntent merged := by
    simp only [saveIntent, merged]
    cases store.findIntent intent.id <;> rfl
  rw [sameStore]
  exact findIntent_saveIntent sameCreation

/-- What is stored behind the saving of an intent was stored before, or is the merged intent. -/
theorem mem_saveIntent
    {held : IntentRecord}
    (stored : held ∈ (store.saveIntent intent).intents) :
    held ∈ store.intents ∨ held = { intent with
      createdAt := ((store.findIntent intent.id).map (·.createdAt)).getD intent.createdAt } := by
  rcases List.mem_append.mp stored with among | isSaved
  · exact Or.inl (List.mem_filter.mp among).1
  · exact Or.inr (List.mem_singleton.mp isSaved)

/-- What is stored behind the saving of a record are the others and the merged record. -/
theorem mem_records_saveRecord :
    other ∈ (store.saveRecord record).records ↔
      other ∈ store.records ∧ other.id ≠ record.id ∨ other = { record with
        createdAt := ((store.findRecord record.id).map (·.createdAt)).getD record.createdAt } := by
  rw [saveRecord, List.mem_append, List.mem_filter, List.mem_singleton, bne_iff_ne]

end MemoryStore

/-- A row that is saved again keeps its intent, whichever is asked for. -/
theorem Tables.saveRecord_of_held
    {tables : Tables}
    {row : RecordRow}
    (isHeld : tables.records.rows.any (·.id == row.id) = true)
    (intentId : String) :
    tables.saveRecord { row with intentId := intentId } = tables.saveRecord row := by
  rw [saveRecord, saveRecord, if_pos isHeld]
  exact (if_pos isHeld).symm

/-- Deleting an intent is deleting its records and then the intent. -/
theorem Tables.deleteIntent_deleteRecords
    (tables : Tables)
    (id : String) :
    (tables.deleteRecords id).deleteIntent id = tables.deleteIntent id := by
  simp only [deleteIntent, deleteRecords, Table.filter, List.filter_filter, Bool.and_self]

/--
A database holds what a store in memory holds, every time can be read back, and the intent of
every record is there.
-/
structure Database.Keeps (database : Database) (store : MemoryStore) : Prop where
  holds : database.Holds store
  writable : store.IsWritable
  belonging : ∀ record ∈ store.records, (store.findIntent record.intentId).isSome = true

namespace Database.Keeps

variable {database saved : Database} {store : MemoryStore} {intent : IntentRecord}
  {record other : PolicyRecord} {id : String}

theorem fresh : Database.fresh.Keeps {} :=
  ⟨Database.Holds.fresh, .empty, by simp⟩

theorem storable
    (keeps : database.Keeps store)
    (stored : record ∈ store.records) :
    record.IsStorable := by
  obtain ⟨tables, rfl, holds⟩ := keeps.holds
  exact holds.records.storable record stored

theorem distinctIds
    (keeps : database.Keeps store) :
    (store.records.map (·.id)).Nodup := by
  obtain ⟨tables, rfl, holds⟩ := keeps.holds
  exact holds.records.distinct

theorem distinctIntents
    (keeps : database.Keeps store) :
    (store.intents.map (·.id)).Nodup := by
  obtain ⟨tables, rfl, holds⟩ := keeps.holds
  exact holds.intents.distinct

theorem saveIntent
    (keeps : database.Keeps store)
    (storable : intent.IsStorable)
    (writable : intent.IsWritable) :
    ∃ saved, (repositories.saveIntent intent).run database = (.ok (), saved) ∧
      saved.Keeps (store.saveIntent intent) := by
  obtain ⟨saved, saves, holds⟩ := keeps.holds.saveIntent storable
  refine ⟨saved, saves, holds, { keeps.writable with intents := ?_ }, ?_⟩
  · intro held stored
    rcases MemoryStore.mem_saveIntent stored with among | rfl
    · exact keeps.writable.intents held among
    · cases found : store.findIntent intent.id with
      | none => exact writable
      | some earlier => exact ⟨(keeps.writable.findIntent earlier found).1, writable.2⟩
  · intro record stored
    have belongs := keeps.belonging record stored
    by_cases ofIntent : record.intentId = intent.id
    · rw [ofIntent, MemoryStore.findIntent_of_saved]
      rfl
    · rwa [MemoryStore.findIntent_saveIntent_of_ne ofIntent]

theorem deleteRecords
    (keeps : database.Keeps store)
    (id : String) :
    ∃ saved, (repositories.deleteRecords id).run database =
        (.ok (store.listRecords id).length, saved) ∧
      saved.Keeps (store.deleteRecords id) := by
  obtain ⟨saved, deletes, holds⟩ := keeps.holds.deleteRecords id
  have stored {record : PolicyRecord} (member : record ∈ (store.deleteRecords id).records) :
      record ∈ store.records := (List.mem_filter.mp member).1
  refine ⟨saved, deletes, holds, { keeps.writable with records := ?_ }, ?_⟩
  · exact fun record member => keeps.writable.records record (stored member)
  · exact fun record member => keeps.belonging record (stored member)

/-- An intent is deleted together with its records. -/
theorem deleteIntent
    (keeps : database.Keeps store)
    (id : String) :
    ∃ saved, (repositories.deleteIntent id).run database =
        (.ok (store.findIntent id).isSome, saved) ∧
      saved.Keeps ((store.deleteRecords id).deleteIntent id) := by
  obtain ⟨tables, rfl, holds⟩ := keeps.holds
  have noRecords : (store.deleteRecords id).recordsOf id = [] := by
    simp [MemoryStore.recordsOf, MemoryStore.deleteRecords]
  have holdsNow := (holds.deleteRecords id).deleteIntent noRecords
  rw [Tables.deleteIntent_deleteRecords] at holdsNow
  refine ⟨.migrated (tables.deleteIntent id), ?_, ⟨_, rfl, holdsNow⟩, ?_, ?_⟩
  · have opened : (repositories.deleteIntent id).run (.migrated tables) =
        (.ok (tables.findIntent id).isSome, .migrated (tables.deleteIntent id)) := rfl
    rw [opened, holds.findIntent_eq, Option.isSome_map]
  · refine ⟨?_, ?_, keeps.writable.rates⟩
    · exact fun intent member => keeps.writable.intents intent (List.mem_filter.mp member).1
    · exact fun record member => keeps.writable.records record (List.mem_filter.mp member).1
  · intro record member
    obtain ⟨stored, ofOther⟩ := List.mem_filter.mp member
    rw [MemoryStore.findIntent_deleteIntent_of_ne (bne_iff_ne.mp ofOther)]
    exact keeps.belonging record stored

theorem deleteRecord
    (keeps : database.Keeps store)
    (id : String) :
    ∃ result saved, (repositories.deleteRecord id).run database = (result, saved) ∧
      saved.Keeps (store.deleteRecord id) := by
  obtain ⟨saved, deletes, holds⟩ := keeps.holds.deleteRecord id
  have stored {record : PolicyRecord} (member : record ∈ (store.deleteRecord id).records) :
      record ∈ store.records := (List.mem_filter.mp member).1
  refine ⟨_, saved, deletes, holds, { keeps.writable with records := ?_ }, ?_⟩
  · exact fun record member => keeps.writable.records record (stored member)
  · exact fun record member => keeps.belonging record (stored member)

theorem saveRate
    {rate : ConversionRate}
    (keeps : database.Keeps store)
    (whole : rate.updatedAt.IsWhole)
    (writable : rate.updatedAt.IsWritable) :
    ∃ saved, (repositories.saveRate rate).run database = (.ok (), saved) ∧
      saved.Keeps (store.saveRate rate) := by
  obtain ⟨saved, saves, holds⟩ := keeps.holds.saveRate whole
  refine ⟨saved, saves, holds, { keeps.writable with rates := ?_ }, keeps.belonging⟩
  intro held stored
  rcases List.mem_append.mp stored with among | isSaved
  · exact keeps.writable.rates held (List.mem_filter.mp among).1
  · rwa [List.mem_singleton.mp isSaved]

/-- A saved record keeps what is kept, if its intent is there. -/
theorem of_saveRecord
    (keeps : database.Keeps store)
    (holds : saved.Holds (store.saveRecord record))
    (writable : record.IsWritable)
    (belongs : (store.findIntent record.intentId).isSome = true) :
    saved.Keeps (store.saveRecord record) := by
  refine ⟨holds, { keeps.writable with records := ?_ }, ?_⟩
  · intro held stored
    rcases MemoryStore.mem_records_saveRecord.mp stored with ⟨among, -⟩ | rfl
    · exact keeps.writable.records held among
    · cases found : store.findRecord record.id with
      | none => exact writable
      | some earlier =>
          have earlierStored := List.mem_of_find?_eq_some found
          exact ⟨(keeps.writable.records earlier earlierStored).1, writable.2⟩
  · intro held stored
    rcases MemoryStore.mem_records_saveRecord.mp stored with ⟨among, -⟩ | rfl
    · exact keeps.belonging held among
    · exact belongs

/-- A record under a new key is saved if its intent is there. -/
theorem saveRecord
    (keeps : database.Keeps store)
    (storable : record.IsStorable)
    (writable : record.IsWritable)
    (isNew : store.findRecord record.id = none)
    (belongs : (store.findIntent record.intentId).isSome = true) :
    ∃ saved, (repositories.saveRecord record).run database = (.ok (), saved) ∧
      saved.Keeps (store.saveRecord record) := by
  obtain ⟨saved, saves, holds⟩ := keeps.holds.saveRecord storable (by simp [isNew]) belongs
  exact ⟨saved, saves, keeps.of_saveRecord holds writable belongs⟩

/-- A record under a key that is held is saved for the intent of the held one. -/
theorem saveRecordAgain
    {held : PolicyRecord}
    (keeps : database.Keeps store)
    (storable : record.IsStorable)
    (writable : record.IsWritable)
    (found : store.findRecord record.id = some held) :
    ∃ saved, (repositories.saveRecord record).run database = (.ok (), saved) ∧
      saved.Keeps (store.saveRecord { record with intentId := held.intentId }) := by
  let moved : PolicyRecord := { record with intentId := held.intentId }
  have belongs := keeps.belonging held (List.mem_of_find?_eq_some found)
  have sameIntent : ∀ other, store.findRecord moved.id = some other →
      other.intentId = moved.intentId := by
    intro other foundOther
    have same : other = held := Option.some.inj (foundOther.symm.trans found)
    rw [same]
  have movedStorable : moved.IsStorable :=
    ⟨storable.nanFree, storable.createdAt, storable.updatedAt⟩
  obtain ⟨tables, rfl, holds⟩ := keeps.holds
  obtain ⟨saved, stores, savedHolds⟩ := holds.saveRecord movedStorable sameIntent belongs
  have isHeld : tables.records.rows.any (·.id == (RecordRow.layout record).id) = true := by
    rw [List.any_eq_true]
    have stored := holds.records.laidOut.mem (List.mem_of_find?_eq_some found)
    have sameId := List.find?_some found
    exact ⟨_, stored, (Tables.Holds.recordPick record.id held).trans sameId⟩
  have sameRow : RecordRow.layout moved =
      { RecordRow.layout record with intentId := held.intentId } := rfl
  rw [sameRow, Tables.saveRecord_of_held isHeld] at stores
  exact ⟨.migrated saved, Database.Holds.saveRecord_run storable.nanFree stores,
    keeps.of_saveRecord ⟨saved, rfl, savedHolds⟩ writable belongs⟩

/-- A record under a new key is not saved if its intent is not there. -/
theorem saveRecord_of_absent
    (keeps : database.Keeps store)
    (storable : record.IsStorable)
    (isNew : store.findRecord record.id = none)
    (absent : store.findIntent record.intentId = none) :
    (repositories.saveRecord record).run database = (.error (.database .foreignKey), database) := by
  obtain ⟨tables, rfl, holds⟩ := keeps.holds
  have notHeld : tables.records.rows.any (·.id == (RecordRow.layout record).id) = false := by
    rw [holds.records.laidOut.any_eq (Tables.Holds.recordPick record.id)]
    exact List.any_eq_false.mpr (List.find?_eq_none.mp isNew)
  have noIntent : tables.findIntent (RecordRow.layout record).intentId = none :=
    (holds.findIntent_eq _).trans (congrArg _ absent)
  have refused : tables.saveRecord (RecordRow.layout record) = .error .foreignKey := by
    rw [Tables.saveRecord, notHeld, noIntent]
    rfl
  refine Database.Holds.update_error ?_
  rw [RecordRow.ofRecord_of_nanFree storable.nanFree]
  change (faulty (tables.saveRecord (RecordRow.layout record)) >>= fun changed =>
    pure ((), changed)) = _
  rw [refused]
  rfl

/-- A record is saved like the one with its times cut, and not at all with a NaN. -/
theorem writtenRecord
    (keeps : database.Keeps store)
    (created : record.createdAt.IsTime)
    (updated : record.updatedAt.IsTime)
    (writable : record.IsWritable) :
    ∃ storeNow, (database.written (.saveRecord record)).Keeps storeNow := by
  by_cases nanFree : record.policy.IsNaNFree
  · have sameRow : RecordRow.ofRecord record = RecordRow.ofRecord record.cut :=
      RecordRow.ofRecord_of_cut_eq (by simp [PolicyRecord.cut])
    have sameWrite : repositories.saveRecord record = repositories.saveRecord record.cut := by
      simp only [repositories, sameRow]
    have storable : record.cut.IsStorable := ⟨nanFree, created.isWhole_cut, updated.isWhole_cut⟩
    rw [Database.written, sameWrite]
    cases found : store.findRecord record.cut.id with
    | some held =>
        obtain ⟨saved, saves, keepsNow⟩ := keeps.saveRecordAgain storable writable found
        exact ⟨_, by rwa [saves]⟩
    | none =>
        cases owner : store.findIntent record.cut.intentId with
        | some intent =>
            obtain ⟨saved, saves, keepsNow⟩ := keeps.saveRecord storable writable found
              (Option.isSome_iff_exists.mpr ⟨intent, owner⟩)
            exact ⟨_, by rwa [saves]⟩
        | none =>
            rw [keeps.saveRecord_of_absent storable found owner]
            exact ⟨store, keeps⟩
  · obtain ⟨error, fails⟩ := keeps.holds.saveRecord_of_nan nanFree
    rw [Database.written, fails]
    exact ⟨store, keeps⟩

/-- A write with times that can be read back leaves a database that keeps a store. -/
theorem written
    {write : StoreWrite}
    (keeps : database.Keeps store)
    (dated : write.IsDated) :
    ∃ storeNow, (database.written write).Keeps storeNow := by
  cases write with
  | saveIntent intent =>
      obtain ⟨created, updated, writable⟩ := dated
      have sameWrite : repositories.saveIntent intent = repositories.saveIntent intent.stored := by
        simp only [repositories, IntentRow.ofRecord_stored]
      have storable : intent.stored.IsStorable := ⟨created.isWhole_cut, updated.isWhole_cut⟩
      obtain ⟨saved, saves, keepsNow⟩ := keeps.saveIntent storable writable
      exact ⟨_, by rwa [Database.written, sameWrite, saves]⟩
  | deleteIntent id =>
      obtain ⟨saved, deletes, keepsNow⟩ := keeps.deleteIntent id
      exact ⟨_, by rwa [Database.written, deletes]⟩
  | saveRecord record => exact keeps.writtenRecord dated.1 dated.2.1 dated.2.2
  | deleteRecord id =>
      obtain ⟨result, saved, deletes, keepsNow⟩ := keeps.deleteRecord id
      exact ⟨_, by rwa [Database.written, deletes]⟩
  | deleteRecords id =>
      obtain ⟨saved, deletes, keepsNow⟩ := keeps.deleteRecords id
      exact ⟨_, by rwa [Database.written, deletes]⟩
  | saveRate rate =>
      obtain ⟨isTime, writable⟩ := dated
      let cutRate : ConversionRate := { rate with updatedAt := rate.updatedAt.cut }
      have sameWrite : repositories.saveRate rate = repositories.saveRate cutRate := by
        simp only [repositories, cutRate, RateRow.ofRate_cut]
      have whole : cutRate.updatedAt.IsWhole := isTime.isWhole_cut
      obtain ⟨saved, saves, keepsNow⟩ := keeps.saveRate whole writable
      exact ⟨_, by rwa [Database.written, sameWrite, saves]⟩

/-- However much is written, the database keeps a store. -/
theorem exists_written
    (writes : List StoreWrite)
    (keeps : database.Keeps store)
    (dated : ∀ write ∈ writes, write.IsDated) :
    ∃ storeNow, (writes.foldl Database.written database).Keeps storeNow := by
  induction writes generalizing database store with
  | nil => exact ⟨store, keeps⟩
  | cons write rest inductionHypothesis =>
      obtain ⟨datedHere, datedBehind⟩ := List.forall_mem_cons.mp dated
      obtain ⟨_, keepsNow⟩ := keeps.written datedHere
      exact inductionHypothesis keepsNow datedBehind

section Reading

theorem findIntent_run
    (keeps : database.Keeps store)
    (id : String) :
    (repositories.findIntent id).run database = (.ok (store.findIntent id), database) :=
  (keeps.holds.findIntent id).answer_eq keeps.writable.findIntent

theorem finds_iff
    (keeps : database.Keeps store) :
    database.Finds intent ↔ store.findIntent intent.id = some intent := by
  rw [Finds, keeps.findIntent_run, Prod.mk.injEq, Except.ok.injEq]
  exact and_iff_left rfl

theorem mem_intents_iff
    (keeps : database.Keeps store) :
    intent ∈ store.intents ↔ database.Finds intent := by
  rw [keeps.finds_iff]
  exact ⟨fun stored => find?_key_of_mem keeps.distinctIntents stored, List.mem_of_find?_eq_some⟩

theorem listIntents_run
    (keeps : database.Keeps store)
    (owner : String) :
    (repositories.listIntents owner).run database = (.ok (store.listIntents owner), database) :=
  (keeps.holds.listIntents owner).answer_eq fun intent owned =>
    keeps.writable.intents intent (List.mem_filter.mp owned).1

theorem listRecords_run
    (keeps : database.Keeps store)
    (id : String) :
    (repositories.listRecords id).run database =
      (.ok ((store.listRecords id).map PolicyRecord.stored), database) :=
  (keeps.holds.listRecords id).answer_eq keeps.writable.recordsOf

/-- The records that are listed are those that are stored, without their signs of zero. -/
theorem lists_iff
    (keeps : database.Keeps store) :
    database.Lists record ↔ ∃ held ∈ store.records, held.stored = record := by
  rw [Lists, keeps.listRecords_run]
  constructor
  · rintro ⟨records, listed, member⟩
    obtain rfl := Except.ok.inj (Prod.mk.inj listed).1
    obtain ⟨held, inListing, isRecord⟩ := List.mem_map.mp member
    exact ⟨held, (MemoryStore.mem_listRecords.mp inListing).1, isRecord⟩
  · rintro ⟨held, stored, rfl⟩
    exact ⟨_, rfl, List.mem_map_of_mem (MemoryStore.mem_listRecords.mpr ⟨stored, rfl⟩)⟩

/-- Behind the saving of a record the others are listed and the merged record. -/
theorem lists_of_saveRecord
    (keeps : database.Keeps store)
    (keepsNow : saved.Keeps (store.saveRecord record)) :
    saved.Lists other ↔ database.Lists other ∧ other.id ≠ record.id ∨
      other = PolicyRecord.stored { record with
        createdAt := ((store.findRecord record.id).map (·.createdAt)).getD record.createdAt } := by
  rw [keepsNow.lists_iff, keeps.lists_iff]
  simp only [MemoryStore.mem_records_saveRecord]
  constructor
  · rintro ⟨held, ⟨stored, apart⟩ | rfl, rfl⟩
    · exact Or.inl ⟨⟨held, stored, rfl⟩, apart⟩
    · exact Or.inr rfl
  · rintro (⟨⟨held, stored, rfl⟩, apart⟩ | rfl)
    · exact ⟨held, Or.inl ⟨stored, apart⟩, rfl⟩
    · exact ⟨_, Or.inr rfl, rfl⟩

theorem listRates_run
    (keeps : database.Keeps store) :
    ∃ rates, repositories.listRates.run database = (.ok rates, database) ∧
      rates.Perm (store.rates.map ConversionRate.stored) := by
  obtain ⟨ordered, same, reads⟩ := keeps.holds.listRates
  exact ⟨_, reads.answer_eq keeps.writable.rates, same.map ConversionRate.stored⟩

end Reading

theorem givesBackIntent
    (keeps : database.Keeps store)
    (storable : intent.IsStorable)
    (writable : intent.IsWritable) :
    database.GivesBackIntent intent := by
  obtain ⟨saved, saves, keepsNow⟩ := keeps.saveIntent storable writable
  refine ⟨_, saved, keeps.findIntent_run intent.id, saves, ?_, ?_, fun record => ?_⟩
  · exact keepsNow.finds_iff.mpr (store.findIntent_of_saved intent)
  · intro other apart
    rw [keepsNow.finds_iff, keeps.finds_iff, MemoryStore.findIntent_saveIntent_of_ne apart]
  · rw [keepsNow.lists_iff, keeps.lists_iff]
    exact Iff.rfl

theorem givesBackNew
    (keeps : database.Keeps store)
    (storable : record.IsStorable)
    (writable : record.IsWritable)
    (belongs : ∃ intent, database.Finds intent ∧ intent.id = record.intentId)
    (isNew : ∀ held, database.Lists held → held.id ≠ record.id) :
    database.GivesBackNew record := by
  have hasIntent : (store.findIntent record.intentId).isSome = true := by
    obtain ⟨intent, finds, sameId⟩ := belongs
    rw [← sameId, keeps.finds_iff.mp finds]
    rfl
  have absent : store.findRecord record.id = none := by
    cases found : store.findRecord record.id with
    | none => rfl
    | some held =>
        have sameId := List.find?_some found
        have listed := keeps.lists_iff.mpr ⟨held, List.mem_of_find?_eq_some found, rfl⟩
        exact absurd (beq_iff_eq.mp sameId) (isNew held.stored listed)
  obtain ⟨saved, saves, keepsNow⟩ := keeps.saveRecord storable writable absent hasIntent
  refine ⟨saved, record.stored, saves, storable.sameAs_stored, fun other => ?_, fun intent => ?_⟩
  · rw [keeps.lists_of_saveRecord keepsNow, absent]
    exact or_congr_left (and_iff_left_of_imp (isNew other))
  · rw [keepsNow.finds_iff, keeps.finds_iff]
    exact Iff.rfl

theorem givesBackMerged
    {held : PolicyRecord}
    (keeps : database.Keeps store)
    (storable : record.IsStorable)
    (writable : record.IsWritable)
    (lists : database.Lists held)
    (sameId : held.id = record.id) :
    database.GivesBackMerged held record := by
  obtain ⟨earlier, stored, rfl⟩ := keeps.lists_iff.mp lists
  have whole := (keeps.storable stored).createdAt
  have sameTime : earlier.stored.createdAt = earlier.createdAt := whole.cut
  have found : store.findRecord record.id = some earlier :=
    sameId ▸ MemoryStore.findRecord_of_mem stored keeps.distinctIds
  obtain ⟨saved, saves, keepsNow⟩ := keeps.saveRecordAgain storable writable found
  let merged : PolicyRecord :=
    { record with intentId := earlier.intentId, createdAt := earlier.createdAt }
  have mergedStorable : merged.IsStorable := ⟨storable.nanFree, whole, storable.updatedAt⟩
  -- Of the records that are listed only the one that is held has its identifier.
  have isHeld (other : PolicyRecord) (listed : database.Lists other) :
      other.id = record.id ↔ other = earlier.stored := by
    obtain ⟨record, otherStored, rfl⟩ := keeps.lists_iff.mp listed
    refine ⟨fun sameKey => ?_, fun same => same ▸ sameId⟩
    have sameRecord := List.inj_on_of_nodup_map keeps.distinctIds otherStored stored
      (sameKey.trans sameId.symm)
    rw [sameRecord]
  refine ⟨saved, merged.stored, saves, ?_, fun other => ?_, fun intent => ?_⟩
  · rw [sameTime]
    exact mergedStorable.sameAs_stored
  · rw [keeps.lists_of_saveRecord keepsNow, found]
    exact or_congr_left (and_congr_right fun listed => not_congr (isHeld other listed))
  · rw [keepsNow.finds_iff, keeps.finds_iff]
    exact Iff.rfl

theorem givesBackRate
    {rate : ConversionRate}
    (keeps : database.Keeps store)
    (whole : rate.updatedAt.IsWhole)
    (writable : rate.updatedAt.IsWritable) :
    database.GivesBackRate rate := by
  obtain ⟨saved, saves, keepsNow⟩ := keeps.saveRate whole writable
  obtain ⟨rates, listed, same⟩ := keeps.listRates_run
  obtain ⟨ratesNow, listedNow, sameNow⟩ := keepsNow.listRates_run
  have found : (store.saveRate rate).findRate rate.currency = some rate := by
    have noOther : (store.rates.filter (·.currency != rate.currency)).find?
        (·.currency == rate.currency) = none := by simp
    rw [MemoryStore.findRate, MemoryStore.saveRate, List.find?_append, noOther]
    simp
  have isFound := (keepsNow.holds.findRate rate.currency).answer_eq fun held isHeld =>
    keepsNow.writable.rates held (List.mem_of_find?_eq_some isHeld)
  rw [found] at isFound
  refine ⟨rates, saved, rate.stored, listed, saves, ?_, isFound, ratesNow, listedNow, ?_⟩
  · refine ⟨?_, ?_⟩
    · rw [ConversionRate.stored, whole.cut]
    · simp [ConversionRate.stored, Decimal.sameValue]
  · have others := (same.filter (·.currency != rate.currency)).symm
    rw [List.filter_map] at others
    have saveEq : (store.saveRate rate).rates.map ConversionRate.stored =
        (store.rates.filter (·.currency != rate.currency)).map ConversionRate.stored ++
          [rate.stored] := List.map_append
    rw [saveEq] at sameNow
    exact sameNow.trans (others.append_right _)

theorem listsIntentsInOrder
    (keeps : database.Keeps store)
    (owner : String) :
    database.ListsIntentsInOrder owner := by
  have distinct := keeps.distinctIntents.sublist
    ((List.filter_sublist (p := fun intent => intent.owner == owner)).map IntentRecord.id)
  refine ⟨_, keeps.listIntents_run owner, sorted_strict distinct, fun intent => ?_⟩
  rw [MemoryStore.listIntents, List.mem_mergeSort, List.mem_filter, beq_iff_eq,
    keeps.mem_intents_iff, and_comm]

theorem listsRecordsInOrder
    (keeps : database.Keeps store)
    (intentId : String) :
    database.ListsRecordsInOrder intentId := by
  refine ⟨_, keeps.listRecords_run intentId, ?_, ?_⟩
  · rw [List.pairwise_map]
    have strict := oldestFirst_strict (keeps.distinctIds.sublist
      ((List.filter_sublist (p := fun record => record.intentId == intentId)).map PolicyRecord.id))
    refine strict.imp_of_mem fun {left right} leftListed rightListed precedes => ?_
    have sameTime {record : PolicyRecord} (listed : record ∈ store.listRecords intentId) :
        record.stored.createdAt = record.createdAt :=
      (keeps.storable (MemoryStore.mem_listRecords.mp listed).1).createdAt.cut
    rw [PolicyRecord.Precedes, PolicyRecord.isOlder, sameTime leftListed, sameTime rightListed]
    exact precedes
  · intro record listed
    obtain ⟨held, inListing, rfl⟩ := List.mem_map.mp listed
    exact (MemoryStore.mem_listRecords.mp inListing).2

/-- A database that keeps a store gives back what is saved. -/
theorem givesBack
    (keeps : database.Keeps store) :
    database.GivesBack where
  intents _ := keeps.givesBackIntent
  newRecords _ := keeps.givesBackNew
  heldRecords _ _ := keeps.givesBackMerged
  rates _ := keeps.givesBackRate
  intentsInOrder := keeps.listsIntentsInOrder
  recordsInOrder := keeps.listsRecordsInOrder

end Database.Keeps

/-- Times in whole microseconds and in years of four digits are ordered as their texts are. -/
theorem Instant.microsecondText_lt_iff
    {left right : Instant}
    (leftWhole : left.IsWhole)
    (rightWhole : right.IsWhole)
    (leftWritable : left.IsWritable)
    (rightWritable : right.IsWritable) :
    left.microsecondText < right.microsecondText ↔ left.lt right = true := by
  have ordered {left right : Instant} (leftWhole : left.IsWhole) (rightWhole : right.IsWhole)
      (leftWritable : left.IsWritable) (rightWritable : right.IsWritable)
      (before : left.lt right = true) : left.microsecondText < right.microsecondText := by
    rw [← leftWhole.cut, ← rightWhole.cut] at before
    exact microsecondText_lt leftWhole.isTime rightWhole.isTime leftWritable rightWritable before
  refine ⟨fun textBefore => ?_, ordered leftWhole rightWhole leftWritable rightWritable⟩
  cases before : left.lt right with
  | true => rfl
  | false =>
      cases after : right.lt left with
      | true =>
          have textAfter := ordered rightWhole leftWhole rightWritable leftWritable after
          exact absurd textBefore (lt_asymm textAfter)
      | false =>
          rw [eq_of_not_lt before after] at textBefore
          exact absurd textBefore (lt_irrefl _)

/--
Whatever was written to a database in years of four digits, it gives back what is saved in whole
microseconds and without NaNs as an equal value, with the time of creation and the intent that
were held under the key, and lists rows in the order of creation.  The texts of times are ordered
like the times.
-/
theorem database_gives_back_what_is_saved
    (writes : List StoreWrite)
    (dated : ∀ write ∈ writes, write.IsDated) :
    (writes.foldl Database.written Database.fresh).GivesBack ∧
      ∀ left right : Instant, left.IsWhole → right.IsWhole → left.IsWritable → right.IsWritable →
        (left.microsecondText < right.microsecondText ↔ left.lt right = true) := by
  obtain ⟨store, keeps⟩ := Database.Keeps.exists_written writes .fresh dated
  exact ⟨keeps.givesBack, fun _ _ => Instant.microsecondText_lt_iff⟩

/-- A record of the last leap second, with signs of zero, is given back by its intent. -/
theorem database_gives_back_what_is_saved_in_last_second :
    let time : Instant := ⟨253402300799, 1999999000⟩
    let intent : IntentRecord := ⟨"i1", "ann", "", time, time⟩
    let policy : Policy :=
      { threshold := { Decimal.zero with negative := true }
        minPopularity := .ofMagnitudeBits true 0 }
    let record : PolicyRecord := ⟨"r1", "i1", "", policy, time, time⟩
    let database := [StoreWrite.saveIntent intent].foldl Database.written Database.fresh
    (∀ write ∈ [StoreWrite.saveIntent intent], write.IsDated) ∧
      database.GivesBackNew record := by
  intro time intent policy record database
  have whole : time.IsWhole := by decide
  have writable : time.IsWritable := by decide
  have nanFree : policy.IsNaNFree := by decide
  have storable : intent.IsStorable := ⟨whole, whole⟩
  have readable : intent.IsWritable := ⟨writable, writable⟩
  have dated : ∀ write ∈ [StoreWrite.saveIntent intent], write.IsDated :=
    List.forall_mem_singleton.mpr ⟨whole.isTime, whole.isTime, readable⟩
  obtain ⟨givesBack, -⟩ := database_gives_back_what_is_saved _ dated
  obtain ⟨saved, saves, keeps⟩ := Database.Keeps.fresh.saveIntent storable readable
  have sameDatabase : database = saved := congrArg Prod.snd saves
  refine ⟨dated, givesBack.newRecords record ⟨nanFree, whole, whole⟩ ⟨writable, writable⟩
    ⟨intent, ?_, rfl⟩ ?_⟩
  · rw [show [StoreWrite.saveIntent intent].foldl _ _ = saved from sameDatabase]
    exact keeps.finds_iff.mpr rfl
  · rw [show [StoreWrite.saveIntent intent].foldl _ _ = saved from sameDatabase]
    intro held listed
    obtain ⟨earlier, stored, -⟩ := keeps.lists_iff.mp listed
    cases stored

end IntentPolicy
