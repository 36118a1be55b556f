import IntentPolicy.Proofs.Policy.RateTables
import IntentPolicy.Proofs.Service.Tally
import IntentPolicy.Proofs.Store.Laying
import IntentPolicy.Proofs.Store.RowReading
import Mathlib.Data.String.Basic

namespace IntentPolicy

/-!
# The relational store holds what the store in memory holds

Both stores hold the same entries, one of them laid out in rows.  What is written to both keeps
this so, and what is read from the rows is what is held in memory, as long as its times can be
read back.
-/

section OlderRow

variable {left right : String × Option String}

theorem isOlderRow_some
    (leftTime rightTime leftKey rightKey : String) :
    isOlderRow (leftTime, some leftKey) (rightTime, some rightKey) = true ↔
      leftTime < rightTime ∨ leftTime = rightTime ∧ leftKey ≤ rightKey := by
  simp [isOlderRow]

/-- Rows that are older than each other have one key. -/
theorem sameKey_of_isOlderRow
    {leftTime rightTime leftKey rightKey : String}
    (leftOlder : isOlderRow (leftTime, some leftKey) (rightTime, some rightKey) = true)
    (rightOlder : isOlderRow (rightTime, some rightKey) (leftTime, some leftKey) = true) :
    leftKey = rightKey := by
  rw [isOlderRow_some] at leftOlder rightOlder
  rcases leftOlder with before | ⟨sameTime, leftLe⟩
  · rcases rightOlder with after | ⟨sameTime, -⟩
    · exact (lt_asymm before after).elim
    · rw [sameTime] at before
      exact (lt_irrefl _ before).elim
  · rcases rightOlder with after | ⟨-, rightLe⟩
    · rw [sameTime] at after
      exact (lt_irrefl _ after).elim
    · exact le_antisymm leftLe rightLe

theorem isOlderRow_total
    (left right : String × Option String) :
    (isOlderRow left right || isOlderRow right left) = true := by
  obtain ⟨leftTime, leftKey⟩ := left
  obtain ⟨rightTime, rightKey⟩ := right
  rcases lt_trichotomy leftTime rightTime with before | rfl | after
  · simp [isOlderRow, before]
  · cases leftKey <;> cases rightKey <;> simp [isOlderRow, le_total]
  · simp [isOlderRow, after]

theorem isOlderRow_trans
    (left middle right : String × Option String)
    (leftOlder : isOlderRow left middle = true)
    (middleOlder : isOlderRow middle right = true) :
    isOlderRow left right = true := by
  obtain ⟨leftTime, leftKey⟩ := left
  obtain ⟨middleTime, middleKey⟩ := middle
  obtain ⟨rightTime, rightKey⟩ := right
  simp only [isOlderRow, Bool.or_eq_true, Bool.and_eq_true, decide_eq_true_eq, beq_iff_eq]
    at leftOlder middleOlder ⊢
  rcases leftOlder with before | ⟨rfl, keysOrdered⟩
  · rcases middleOlder with behind | ⟨rfl, -⟩
    · exact Or.inl (lt_trans before behind)
    · exact Or.inl before
  · rcases middleOlder with behind | ⟨rfl, keysBehind⟩
    · exact Or.inl behind
    · refine Or.inr ⟨rfl, ?_⟩
      cases leftKey with
      | none => rfl
      | some leftKey =>
          cases middleKey with
          | none => cases keysOrdered
          | some middleKey =>
              cases rightKey with
              | none => cases keysBehind
              | some rightKey =>
                  simp only [decide_eq_true_eq] at keysOrdered keysBehind ⊢
                  exact le_trans keysOrdered keysBehind

end OlderRow

/-- A time that a clock shows, in whole microseconds. -/
structure Instant.IsWhole (instant : Instant) : Prop where
  isTime : instant.IsTime
  cut : instant.cut = instant

instance (instant : Instant) : Decidable instant.IsWhole :=
  decidable_of_iff (instant.IsTime ∧ instant.cut = instant)
    ⟨fun ⟨isTime, cut⟩ => ⟨isTime, cut⟩, fun ⟨isTime, cut⟩ => ⟨isTime, cut⟩⟩

theorem Instant.IsTime.isWhole_cut
    {instant : Instant}
    (isTime : instant.IsTime) :
    instant.cut.IsWhole :=
  ⟨isTime.cut, instant.cut_cut⟩

section Reading

variable {Entry Row Value : Type} {layout : Entry → Row} {key : Entry → String}
  {storable : Entry → Prop} {entries : List Entry} {rows : List Row}

/-- Rows that hold times as texts are sorted like the entries, if the texts have four-digit years. -/
theorem Tabulates.sorted_eq
    (tabulates : Tabulates layout key storable entries rows)
    (time : Entry → Instant)
    (rowKey : Row → String × Option String)
    (keyed : ∀ entry, rowKey (layout entry) = ((time entry).microsecondText, some (key entry)))
    (whole : ∀ entry, storable entry → (time entry).IsWhole)
    (writable : ∀ entry ∈ entries, (time entry).IsWritable) :
    (rows.mergeSort fun left right => isOlderRow (rowKey left) (rowKey right)) =
      (entries.mergeSort fun left right =>
        isOlderKey (time left, key left) (time right, key right)).map layout := by
  have isWhole {entry : Entry} (stored : entry ∈ entries) : (time entry).IsWhole :=
    whole entry (tabulates.storable entry stored)
  refine tabulates.laidOut.mergeSort_eq (fun _ _ _ => isOlderRow_trans _ _ _)
    (fun _ _ => isOlderRow_total _ _) (fun _ _ _ => isOlderKey_trans _ _ _)
    (fun _ _ => isOlderKey_total _ _) ?_ ?_
  · intro left leftStored right rightStored older
    rw [keyed, keyed, isOlderRow_some]
    have written : (time left).lt (time right) = true →
        (time left).microsecondText < (time right).microsecondText := by
      intro before
      refine Instant.microsecondText_lt (isWhole leftStored).isTime (isWhole rightStored).isTime
        (writable left leftStored) (writable right rightStored) ?_
      rw [(isWhole leftStored).cut, (isWhole rightStored).cut]
      exact before
    rcases isOlderKey_iff.mp older with before | ⟨notAfter, idsOrdered⟩
    · exact Or.inl (written before)
    · cases before : (time left).lt (time right) with
      | true => exact Or.inl (written before)
      | false => exact Or.inr ⟨by rw [Instant.eq_of_not_lt before notAfter], idsOrdered⟩
  · intro left leftStored right rightStored leftFirst rightFirst
    rw [keyed, keyed] at leftFirst rightFirst
    exact List.inj_on_of_nodup_map tabulates.distinct leftStored rightStored
      (sameKey_of_isOlderRow leftFirst rightFirst)

/-- An answer read from a database, unless something that has to be read cannot be. -/
inductive Database.Reads (readable : Prop) (value : Value) (database : Database) :
    Except StoreError Value × Database → Prop
  | answered (isReadable : readable) : Reads readable value database (.ok value, database)
  | unreadable {error : StoreError} (notReadable : ¬ readable) :
      Reads readable value database (.error error, database)

theorem Database.Reads.eq_ok
    {readable : Prop}
    {value : Value}
    {database : Database}
    {outcome : Except StoreError Value × Database}
    (reads : Database.Reads readable value database outcome)
    (isReadable : readable) :
    outcome = (.ok value, database) := by
  cases reads with
  | answered => rfl
  | unreadable notReadable => exact (notReadable isReadable).elim

/-- What cannot be read is an error. -/
theorem Database.Reads.exists_error
    {readable : Prop}
    {value : Value}
    {database : Database}
    {outcome : Except StoreError Value × Database}
    (reads : Database.Reads readable value database outcome)
    (notReadable : ¬ readable) :
    ∃ error, outcome = (.error error, database) := by
  cases reads with
  | answered isReadable => exact (notReadable isReadable).elim
  | unreadable => exact ⟨_, rfl⟩

/-- Rows are read in the order of the entries, all of them or none. -/
theorem Tabulates.reads_sorted
    {readable : Entry → Prop}
    {readBack : Entry → Value}
    {read : Row → Except DecodeFault Value}
    (tabulates : Tabulates layout key storable entries rows)
    (time : Entry → Instant)
    (rowKey : Row → String × Option String)
    (keyed : ∀ entry, rowKey (layout entry) = ((time entry).microsecondText, some (key entry)))
    (whole : ∀ entry, storable entry → (time entry).IsWhole)
    (writable : ∀ entry, readable entry → (time entry).IsWritable)
    (reads : ∀ entry, storable entry → readable entry → read (layout entry) = .ok (readBack entry))
    (fails : ∀ entry, storable entry → ¬ readable entry →
      ∃ fault, read (layout entry) = .error fault)
    (database : Database) :
    Database.Reads (∀ entry ∈ entries, readable entry)
      ((entries.mergeSort fun left right =>
        isOlderKey (time left, key left) (time right, key right)).map readBack) database
      (Database.readable ((rows.mergeSort fun left right =>
        isOlderRow (rowKey left) (rowKey right)).mapM read), database) := by
  by_cases readableAll : ∀ entry ∈ entries, readable entry
  · have sorted := tabulates.sorted_eq time rowKey keyed whole fun entry stored =>
      writable entry (readableAll entry stored)
    have readSorted : (rows.mergeSort fun left right =>
          isOlderRow (rowKey left) (rowKey right)).mapM read =
        .ok ((entries.mergeSort fun left right =>
          isOlderKey (time left, key left) (time right, key right)).map readBack) := by
      rw [sorted]
      refine mapM_layout fun entry inSorted => ?_
      have stored := List.mem_mergeSort.mp inSorted
      exact reads entry (tabulates.storable entry stored) (readableAll entry stored)
    rw [readSorted]
    exact .answered readableAll
  · obtain ⟨entry, stored, notReadable⟩ :
        ∃ entry, entry ∈ entries ∧ ¬ readable entry := by simpa using readableAll
    obtain ⟨fault, unreadable⟩ := fails entry (tabulates.storable entry stored) notReadable
    obtain ⟨first, failed⟩ := mapM_of_error
      (List.mem_mergeSort.mpr (tabulates.laidOut.mem stored)) unreadable
    rw [failed]
    exact .unreadable readableAll

end Reading

/-- A record that can be stored without a loss, but for signs of zero. -/
structure PolicyRecord.IsStorable (record : PolicyRecord) : Prop where
  nanFree : record.policy.IsNaNFree
  createdAt : record.createdAt.IsWhole
  updatedAt : record.updatedAt.IsWhole

/-- The times of a record can be read back. -/
def PolicyRecord.IsWritable (record : PolicyRecord) : Prop :=
  record.createdAt.IsWritable ∧ record.updatedAt.IsWritable

instance (record : PolicyRecord) : Decidable record.IsWritable :=
  inferInstanceAs (Decidable (record.createdAt.IsWritable ∧ record.updatedAt.IsWritable))

/-- An intent that can be stored without a loss. -/
structure IntentRecord.IsStorable (intent : IntentRecord) : Prop where
  createdAt : intent.createdAt.IsWhole
  updatedAt : intent.updatedAt.IsWhole

/-- The times of an intent can be read back. -/
def IntentRecord.IsWritable (intent : IntentRecord) : Prop :=
  intent.createdAt.IsWritable ∧ intent.updatedAt.IsWritable

instance (intent : IntentRecord) : Decidable intent.IsWritable :=
  inferInstanceAs (Decidable (intent.createdAt.IsWritable ∧ intent.updatedAt.IsWritable))

theorem IntentRecord.IsStorable.stored_eq
    {intent : IntentRecord}
    (storable : intent.IsStorable) :
    intent.stored = intent := by
  rw [IntentRecord.stored, storable.createdAt.cut, storable.updatedAt.cut]

/-- The tables hold what a store in memory holds. -/
structure Tables.Holds (tables : Tables) (store : MemoryStore) : Prop where
  intents : Tabulates IntentRow.ofRecord IntentRecord.id IntentRecord.IsStorable store.intents
    tables.intents.rows
  records : Tabulates RecordRow.layout PolicyRecord.id PolicyRecord.IsStorable store.records
    tables.records.rows
  rates : ∃ rates, tables.rates = some rates ∧
    Tabulates RateRow.ofRate ConversionRate.currency (·.updatedAt.IsWhole) store.rates rates.rows

namespace Tables.Holds

variable {tables : Tables} {store : MemoryStore} {id : String} {intent : IntentRecord}
  {record : PolicyRecord} {rate : ConversionRate}

theorem intentPick
    (id : String)
    (intent : IntentRecord) :
    ((IntentRow.ofRecord intent).id == some id) = (intent.id == id) := by
  simp [IntentRow.ofRecord]

theorem recordPick
    (id : String)
    (record : PolicyRecord) :
    ((RecordRow.layout record).id == some id) = (record.id == id) := by
  simp [RecordRow.layout]

theorem ratePick
    (currency : Currency)
    (rate : ConversionRate) :
    ((RateRow.ofRate rate).currency == some (wordOf currency)) = (rate.currency == currency) := by
  cases currency <;> obtain ⟨held, amount, updatedAt⟩ := rate <;> cases held <;> rfl

theorem findIntent_eq
    (holds : tables.Holds store)
    (id : String) :
    tables.findIntent id = (store.findIntent id).map IntentRow.ofRecord :=
  holds.intents.find?_eq (intentPick id)

theorem findRecord_eq
    (holds : tables.Holds store)
    (id : String) :
    tables.findRecord id = (store.findRecord id).map RecordRow.layout :=
  holds.records.find?_eq (recordPick id)

theorem saveIntent
    (holds : tables.Holds store)
    (storable : intent.IsStorable) :
    (tables.saveIntent (.ofRecord intent)).Holds (store.saveIntent intent) := by
  let merged (held : Option IntentRecord) : IntentRecord :=
    { intent with createdAt := (held.map (·.createdAt)).getD intent.createdAt }
  have intents := holds.intents.save (·.id == (IntentRow.ofRecord intent).id)
    (intentPick intent.id) (IntentRow.ofRecord intent).replacing merged (fun _ => rfl) (fun _ => rfl)
    storable fun held heldStorable => ⟨heldStorable.createdAt, storable.updatedAt⟩
  rw [Tables.saveIntent]
  split at intents
  · next isHeld =>
      rw [if_pos isHeld]
      exact ⟨intents, holds.records, holds.rates⟩
  · next notHeld =>
      rw [if_neg notHeld]
      exact ⟨intents, holds.records, holds.rates⟩

/-- Deleting an intent without records does not touch the records. -/
theorem deleteIntent
    (holds : tables.Holds store)
    (noRecords : store.recordsOf id = []) :
    (tables.deleteIntent id).Holds (store.deleteIntent id) := by
  have noneGoes : store.records.filter (·.intentId != id) = store.records := by
    rw [List.filter_eq_self]
    intro record member
    have notHere := List.filter_eq_nil_iff.mp noRecords record member
    simpa using notHere
  have records := holds.records.filter (·.intentId != id) fun record =>
    (rfl : _ = (record.intentId != id))
  rw [noneGoes] at records
  have intents := holds.intents.filter (·.id != some id) fun intent =>
    congrArg not (intentPick id intent)
  refine ⟨?_, ?_, holds.rates⟩
  · rw [Tables.deleteIntent, Table.rows_filter]
    exact intents
  · rw [Tables.deleteIntent, Table.rows_filter]
    exact records

theorem saveRecord
    (holds : tables.Holds store)
    (storable : record.IsStorable)
    (sameIntent : ∀ held, store.findRecord record.id = some held →
      held.intentId = record.intentId)
    (belongs : (store.findIntent record.intentId).isSome = true) :
    ∃ saved, tables.saveRecord (RecordRow.layout record) = .ok saved ∧
      saved.Holds (store.saveRecord record) := by
  let merged (held : Option PolicyRecord) : PolicyRecord :=
    { record with createdAt := (held.map (·.createdAt)).getD record.createdAt }
  -- The row of a held record keeps its intent, which is that of the record in any case.
  let change (row : RecordRow) : RecordRow :=
    { (RecordRow.layout record).replacing row with intentId := record.intentId }
  have records := holds.records.save (·.id == (RecordRow.layout record).id)
    (recordPick record.id) change merged (fun _ => rfl) (fun _ => rfl) storable
    fun held heldStorable => ⟨storable.nanFree, heldStorable.createdAt, storable.updatedAt⟩
  rw [Tables.saveRecord]
  cases isHeld : tables.records.rows.any (·.id == (RecordRow.layout record).id) with
  | true =>
      rw [if_pos rfl]
      refine ⟨_, rfl, holds.intents, ?_, holds.rates⟩
      rw [isHeld, if_pos rfl, Table.rows_map] at records
      have sameRows : tables.records.rows.map (fun row =>
            if row.id == (RecordRow.layout record).id then (RecordRow.layout record).replacing row
            else row) =
          tables.records.rows.map fun row =>
            if row.id == (RecordRow.layout record).id then change row else row := by
        refine List.map_congr_left fun row member => ?_
        obtain ⟨held, stored, rfl⟩ := List.mem_map.mp (holds.records.laidOut.mem_iff.mp member)
        split
        · next sameKey =>
            have sameId : held.id = record.id := Option.some.inj (beq_iff_eq.mp sameKey)
            have found := MemoryStore.findRecord_of_mem stored holds.records.distinct
            have ofIntent : (RecordRow.layout held).intentId = record.intentId :=
              sameIntent held (sameId ▸ found)
            simp only [change, RecordRow.replacing, ofIntent]
        · rfl
      rw [Table.rows_map, sameRows]
      exact records
  | false =>
      have isFound : (tables.findIntent (RecordRow.layout record).intentId).isSome = true := by
        rw [holds.findIntent_eq, Option.isSome_map]
        exact belongs
      rw [isHeld, if_neg Bool.false_ne_true] at records
      rw [if_neg Bool.false_ne_true, if_pos isFound]
      exact ⟨_, rfl, holds.intents, records, holds.rates⟩

theorem deleteRecord
    (holds : tables.Holds store)
    (id : String) :
    (tables.deleteRecord id).Holds (store.deleteRecord id) := by
  have records := holds.records.filter (·.id != some id) fun record =>
    congrArg not (recordPick id record)
  refine ⟨holds.intents, ?_, holds.rates⟩
  rw [Tables.deleteRecord, Table.rows_filter]
  exact records

theorem deleteRecords
    (holds : tables.Holds store)
    (id : String) :
    (tables.deleteRecords id).Holds (store.deleteRecords id) := by
  have records := holds.records.filter (·.intentId != id) fun record =>
    (rfl : _ = (record.intentId != id))
  refine ⟨holds.intents, ?_, holds.rates⟩
  rw [Tables.deleteRecords, Table.rows_filter]
  exact records

theorem saveRate
    {rates : Table RateRow}
    (holds : tables.Holds store)
    (rated : tables.rates = some rates)
    (whole : rate.updatedAt.IsWhole) :
    ({ tables with rates := some (Tables.saveRate rates (.ofRate rate)) } : Tables).Holds
      (store.saveRate rate) := by
  obtain ⟨held, heldRates, tabulates⟩ := holds.rates
  obtain rfl := Option.some.inj (rated.symm.trans heldRates)
  have saved := tabulates.save (·.currency == some (wordOf rate.currency))
    (ratePick rate.currency) (fun _ => RateRow.ofRate rate)
    (fun _ => rate) (fun _ => rfl) (fun _ => rfl) whole fun _ _ => whole
  exact ⟨holds.intents, holds.records, _, rfl, saved⟩

end Tables.Holds

section Rates

variable {store : MemoryStore} {currency : Currency} {amount : Decimal}
  {listed : List ConversionRate}

/-- The rates of a list, as a table knows them. -/
theorem lookup_ofRates
    (distinct : (listed.map (·.currency)).Nodup) :
    (RateTable.ofList (listed.map fun rate => (rate.currency, rate.rate))).lookup currency =
        some amount ↔
      ∃ rate ∈ listed, rate.currency = currency ∧ rate.rate = amount := by
  have distinctKeys : ((listed.map fun rate => (rate.currency, rate.rate)).map (·.1)).Nodup := by
    rwa [List.map_map]
  rw [RateTable.lookup_ofList distinctKeys]
  simp

theorem MemoryStore.lookup_rateTable
    (distinct : (store.rates.map (·.currency)).Nodup) :
    store.rateTable.lookup currency = some amount ↔
      ∃ rate ∈ store.rates, rate.currency = currency ∧ rate.rate = amount := by
  have stored {wanted : Currency} {rate : ConversionRate}
      (found : store.findRate wanted = some rate) :
      rate ∈ store.rates ∧ rate.currency = wanted := by
    have sameCurrency := List.find?_some found
    exact ⟨List.mem_of_find?_eq_some found, beq_iff_eq.mp sameCurrency⟩
  have distinctListed : (store.listRates.map (·.currency)).Nodup := by
    rw [listRates, List.Nodup, List.pairwise_map, List.pairwise_filterMap]
    have distinctWords : (Vocabulary.all : List Currency).Pairwise (· ≠ ·) := by decide
    refine distinctWords.imp fun apart left foundLeft right foundRight sameCurrency => apart ?_
    rw [← (stored foundLeft).2, sameCurrency, (stored foundRight).2]
  have listed {rate : ConversionRate} : rate ∈ store.listRates ↔ rate ∈ store.rates := by
    rw [listRates, List.mem_filterMap]
    constructor
    · rintro ⟨wanted, -, found⟩
      exact (stored found).1
    · intro member
      have isFound : (store.findRate rate.currency).isSome = true := by
        rw [findRate, List.find?_isSome]
        exact ⟨rate, member, beq_self_eq_true rate.currency⟩
      obtain ⟨other, found⟩ := Option.isSome_iff_exists.mp isFound
      obtain ⟨otherStored, sameCurrency⟩ := stored found
      obtain rfl := List.inj_on_of_nodup_map distinct otherStored member sameCurrency
      exact ⟨_, Vocabulary.mem_all _, found⟩
  rw [rateTable, lookup_ofRates distinctListed]
  simp only [listed]

/-- Rates that have lost their signs of zero make a table that has lost them. -/
theorem MemoryStore.isUnsigned_ofRates
    (distinct : (store.rates.map (·.currency)).Nodup)
    (same : listed.Perm (store.rates.map ConversionRate.stored)) :
    (RateTable.ofList (listed.map fun rate => (rate.currency, rate.rate))).IsUnsigned
      store.rateTable := by
  have distinctListed : (listed.map (·.currency)).Nodup := by
    rw [(same.map ConversionRate.currency).nodup_iff, List.map_map]
    exact distinct
  intro currency
  refine Option.ext fun amount => ?_
  rw [lookup_ofRates distinctListed, Option.map_eq_some_iff]
  simp only [MemoryStore.lookup_rateTable distinct, same.mem_iff, List.mem_map]
  constructor
  · rintro ⟨_, ⟨rate, stored, rfl⟩, ofCurrency, sameAmount⟩
    exact ⟨rate.rate, ⟨rate, stored, ofCurrency, rfl⟩, sameAmount⟩
  · rintro ⟨_, ⟨rate, stored, ofCurrency, rfl⟩, sameAmount⟩
    exact ⟨rate.stored, ⟨rate, stored, rfl⟩, ofCurrency, sameAmount⟩

end Rates

/-- A migrated database holds what a store in memory holds. -/
def Database.Holds (database : Database) (store : MemoryStore) : Prop :=
  ∃ tables, database = .migrated tables ∧ tables.Holds store

namespace Database.Holds

variable {database : Database} {store : MemoryStore} {intent : IntentRecord}
  {record : PolicyRecord} {rate : ConversionRate}

theorem fresh : Database.fresh.Holds {} :=
  ⟨{}, rfl, .nil, .nil, _, rfl, .nil⟩

/-- An intent is read from the row that is found. -/
theorem findIntent_run
    {tables : Tables}
    {id : String}
    {found : Option IntentRow}
    (looked : tables.findIntent id = found) :
    (repositories.findIntent id).run (.migrated tables) =
      (found.elim (.ok none) fun row => (readable row.read).map some, .migrated tables) := by
  cases found with
  | none =>
      simp only [repositories, answering, ExceptT.run, ExceptT.mk, Database.tables, faulty,
        Except.mapError, bind, Except.bind, looked]
      rfl
  | some row =>
      simp only [repositories, answering, ExceptT.run, ExceptT.mk, Database.tables, faulty,
        Except.mapError, bind, Except.bind, looked, Option.elim_some]
      cases readable row.read with
      | error => rfl
      | ok => rfl

theorem findIntent
    (holds : database.Holds store)
    (id : String) :
    Reads (∀ intent ∈ store.findIntent id, intent.IsWritable) (store.findIntent id) database
      ((repositories.findIntent id).run database) := by
  obtain ⟨tables, rfl, holds⟩ := holds
  rw [findIntent_run (holds.findIntent_eq id)]
  cases found : store.findIntent id with
  | none => exact .answered (by simp)
  | some intent =>
      have stored := holds.intents.storable intent (List.mem_of_find?_eq_some found)
      rw [Option.map_some, Option.elim_some]
      by_cases writable : intent.IsWritable
      · rw [IntentRow.read_ofRecord stored.createdAt.isTime stored.updatedAt.isTime writable.1
          writable.2, stored.stored_eq]
        exact .answered (by simpa using writable)
      · obtain ⟨fault, unreadable⟩ :=
          IntentRow.read_ofRecord_of_not_writable stored.createdAt.isTime writable
        rw [unreadable]
        exact .unreadable fun readable => writable (readable intent rfl)

theorem listIntents
    (holds : database.Holds store)
    (owner : String) :
    Reads (∀ intent ∈ store.intents.filter (·.owner == owner), intent.IsWritable)
      (store.listIntents owner) database ((repositories.listIntents owner).run database) := by
  obtain ⟨tables, rfl, holds⟩ := holds
  have ofOwner := holds.intents.filter (·.owner == owner) fun intent =>
    (rfl : _ = (intent.owner == owner))
  have reads := ofOwner.reads_sorted IntentRecord.createdAt
    (fun row : IntentRow => (row.createdAt, row.id)) (fun _ => rfl)
    (fun _ storable => storable.createdAt) (fun _ writable => writable.1)
    (fun intent storable writable => IntentRow.read_ofRecord storable.createdAt.isTime
      storable.updatedAt.isTime writable.1 writable.2)
    (fun intent storable => IntentRow.read_ofRecord_of_not_writable storable.createdAt.isTime)
    (.migrated tables)
  have unchanged : (store.listIntents owner).map IntentRecord.stored = store.listIntents owner := by
    refine (List.map_congr_left fun intent listed => ?_).trans (List.map_id _)
    have member := (List.mem_filter.mp (List.mem_mergeSort.mp listed)).1
    exact (holds.intents.storable intent member).stored_eq
  have opened : (repositories.listIntents owner).run (.migrated tables) =
      (readable ((tables.intentsOf owner).mapM IntentRow.read), .migrated tables) := rfl
  rw [← unchanged, opened]
  exact reads

theorem listRecords
    (holds : database.Holds store)
    (intentId : String) :
    Reads (∀ record ∈ store.recordsOf intentId, record.IsWritable)
      ((store.listRecords intentId).map PolicyRecord.stored) database
      ((repositories.listRecords intentId).run database) := by
  obtain ⟨tables, rfl, holds⟩ := holds
  have ofIntent := holds.records.filter (·.intentId == intentId) fun record =>
    (rfl : _ = (record.intentId == intentId))
  have opened : (repositories.listRecords intentId).run (.migrated tables) =
      (readable ((tables.recordsOf intentId).mapM RecordRow.read), .migrated tables) := rfl
  rw [opened]
  exact ofIntent.reads_sorted PolicyRecord.createdAt
    (fun row : RecordRow => (row.createdAt, row.id)) (fun _ => rfl)
    (fun _ storable => storable.createdAt) (fun _ writable => writable.1)
    (fun record storable writable => RecordRow.read_layout storable.createdAt.isTime
      storable.updatedAt.isTime writable.1 writable.2)
    (fun record storable => RecordRow.read_layout_of_not_writable storable.createdAt.isTime)
    (.migrated tables)

theorem saveIntent
    (holds : database.Holds store)
    (storable : intent.IsStorable) :
    ∃ saved, (repositories.saveIntent intent).run database = (.ok (), saved) ∧
      saved.Holds (store.saveIntent intent) := by
  obtain ⟨tables, rfl, holds⟩ := holds
  exact ⟨_, rfl, _, rfl, holds.saveIntent storable⟩

theorem deleteIntent
    {id : String}
    (holds : database.Holds store)
    (noRecords : store.recordsOf id = []) :
    ∃ saved, (repositories.deleteIntent id).run database =
        (.ok (store.findIntent id).isSome, saved) ∧
      saved.Holds (store.deleteIntent id) := by
  obtain ⟨tables, rfl, holds⟩ := holds
  refine ⟨_, ?_, _, rfl, holds.deleteIntent noRecords⟩
  have unfolded : (repositories.deleteIntent id).run (.migrated tables) =
      (.ok (tables.findIntent id).isSome, .migrated (tables.deleteIntent id)) := rfl
  rw [unfolded, holds.findIntent_eq, Option.isSome_map]

section Updating

variable {Value : Type} {tables changed : Tables} {table : StoreTable} {value : Value}
  {error : StoreError} {change : Tables → Except StoreError (Value × Tables)}

theorem update_ok
    (changes : change tables = .ok (value, changed)) :
    (update table change).run (.migrated tables) = (.ok value, .migrated changed) := by
  have opened : (update table change).run (.migrated tables) =
      ExceptT.run (changing fun database : Database =>
        change tables >>= fun result => pure (result.1, .migrated result.2)) (.migrated tables) := rfl
  rw [opened, changing, ExceptT.run_mk, changes]
  rfl

theorem update_error
    (fails : change tables = .error error) :
    (update table change).run (.migrated tables) = (.error error, .migrated tables) := by
  have opened : (update table change).run (.migrated tables) =
      ExceptT.run (changing fun database : Database =>
        change tables >>= fun result => pure (result.1, .migrated result.2)) (.migrated tables) := rfl
  rw [opened, changing, ExceptT.run_mk, fails]
  rfl

end Updating

/-- A record is saved in the row that it is laid out as. -/
theorem saveRecord_run
    {tables saved : Tables}
    (nanFree : record.policy.IsNaNFree)
    (stores : tables.saveRecord (RecordRow.layout record) = .ok saved) :
    (repositories.saveRecord record).run (.migrated tables) = (.ok (), .migrated saved) := by
  refine update_ok ?_
  rw [RecordRow.ofRecord_of_nanFree nanFree]
  change (faulty (tables.saveRecord (RecordRow.layout record)) >>= fun changed =>
    pure ((), changed)) = _
  rw [stores]
  rfl

theorem saveRecord
    (holds : database.Holds store)
    (storable : record.IsStorable)
    (sameIntent : ∀ held, store.findRecord record.id = some held →
      held.intentId = record.intentId)
    (belongs : (store.findIntent record.intentId).isSome = true) :
    ∃ saved, (repositories.saveRecord record).run database = (.ok (), saved) ∧
      saved.Holds (store.saveRecord record) := by
  obtain ⟨tables, rfl, holds⟩ := holds
  obtain ⟨saved, stores, savedHolds⟩ := holds.saveRecord storable sameIntent belongs
  exact ⟨.migrated saved, saveRecord_run storable.nanFree stores, saved, rfl, savedHolds⟩

/-- A record with a NaN is not saved. -/
theorem saveRecord_of_nan
    (holds : database.Holds store)
    (notNaNFree : ¬ record.policy.IsNaNFree) :
    ∃ error, (repositories.saveRecord record).run database = (.error error, database) := by
  obtain ⟨tables, rfl, -⟩ := holds
  obtain ⟨fault, noRow⟩ := RecordRow.ofRecord_of_nan notNaNFree
  refine ⟨.database fault, update_error ?_⟩
  rw [noRow]
  rfl

theorem deleteRecord
    (holds : database.Holds store)
    (id : String) :
    ∃ saved, (repositories.deleteRecord id).run database =
        (if (store.findRecord id).isSome then .ok () else .error (.recordNotFound id), saved) ∧
      saved.Holds (store.deleteRecord id) := by
  obtain ⟨tables, rfl, holds⟩ := holds
  have sameFound : (tables.findRecord id).isSome = (store.findRecord id).isSome := by
    rw [holds.findRecord_eq, Option.isSome_map]
  cases found : store.findRecord id with
  | some record =>
      rw [found, Option.isSome_some] at sameFound
      exact ⟨_, update_ok (if_pos sameFound), _, rfl, holds.deleteRecord id⟩
  | none =>
      rw [found, Option.isSome_none] at sameFound
      rw [MemoryStore.deleteRecord_of_absent found]
      exact ⟨_, update_error (if_neg (by simp [sameFound])), _, rfl, holds⟩

theorem deleteRecords
    (holds : database.Holds store)
    (id : String) :
    ∃ saved, (repositories.deleteRecords id).run database =
        (.ok (store.listRecords id).length, saved) ∧
      saved.Holds (store.deleteRecords id) := by
  obtain ⟨tables, rfl, holds⟩ := holds
  have ofIntent := holds.records.filter (·.intentId == id) fun record =>
    (rfl : _ = (record.intentId == id))
  have sameNumber : (tables.recordsOf id).length = (store.listRecords id).length := by
    have sorted : (tables.recordsOf id).Perm _ := List.mergeSort_perm _ _
    have laidOut := (sorted.trans ofIntent.laidOut).length_eq
    rw [List.length_map] at laidOut
    rw [laidOut, (store.listRecords_perm id).length_eq]
    rfl
  rw [← sameNumber]
  exact ⟨_, rfl, _, rfl, holds.deleteRecords id⟩

theorem saveRate
    (holds : database.Holds store)
    (whole : rate.updatedAt.IsWhole) :
    ∃ saved, (repositories.saveRate rate).run database = (.ok (), saved) ∧
      saved.Holds (store.saveRate rate) := by
  obtain ⟨⟨intents, records, _⟩, rfl, holds⟩ := holds
  obtain ⟨rates, rfl, -⟩ := holds.rates
  exact ⟨_, rfl, _, rfl, holds.saveRate rfl whole⟩

/-- A rate is read from the row that is found. -/
theorem findRate_run
    {tables : Tables}
    {rates : Table RateRow}
    {currency : Currency}
    {found : Option RateRow}
    (rated : tables.rates = some rates)
    (looked : rates.rows.find? (·.currency == some (wordOf currency)) = found) :
    (repositories.findRate currency).run (.migrated tables) =
      (found.elim (.ok none) fun row => (readable row.read).map fun rate => some rate.rate,
        .migrated tables) := by
  cases found with
  | none =>
      simp only [repositories, answering, ExceptT.run, ExceptT.mk, Database.rateTable, rated, faulty,
        Except.mapError, bind, Except.bind, looked]
      rfl
  | some row =>
      simp only [repositories, answering, ExceptT.run, ExceptT.mk, Database.rateTable, rated, faulty,
        Except.mapError, bind, Except.bind, looked, Option.elim_some]
      cases readable row.read with
      | error => rfl
      | ok => rfl

theorem findRate
    (holds : database.Holds store)
    (currency : Currency) :
    Reads (∀ rate ∈ store.findRate currency, rate.updatedAt.IsWritable)
      ((store.findRate currency).map fun rate => rate.stored.rate) database
      ((repositories.findRate currency).run database) := by
  obtain ⟨tables, rfl, holds⟩ := holds
  obtain ⟨rates, rated, tabulates⟩ := holds.rates
  have looked : rates.rows.find? (·.currency == some (wordOf currency)) =
      (store.findRate currency).map RateRow.ofRate :=
    tabulates.find?_eq (Tables.Holds.ratePick currency)
  rw [findRate_run rated looked]
  cases found : store.findRate currency with
  | none => exact .answered (by simp)
  | some rate =>
      have stored := tabulates.storable rate (List.mem_of_find?_eq_some found)
      rw [Option.map_some, Option.map_some, Option.elim_some]
      by_cases writable : rate.updatedAt.IsWritable
      · rw [RateRow.read_ofRate stored.isTime writable]
        exact .answered (by simpa using writable)
      · obtain ⟨fault, unreadable⟩ := RateRow.read_ofRate_of_not_writable writable
        rw [unreadable]
        exact .unreadable fun readable => writable (readable rate rfl)

/-- The rates are read in an order of their own. -/
theorem listRates
    (holds : database.Holds store) :
    ∃ ordered : List ConversionRate, ordered.Perm store.rates ∧
      Reads (∀ rate ∈ store.rates, rate.updatedAt.IsWritable)
        (ordered.map ConversionRate.stored) database (repositories.listRates.run database) := by
  obtain ⟨⟨intents, records, _⟩, rfl, holds⟩ := holds
  obtain ⟨rates, rfl, tabulates⟩ := holds.rates
  have sorted : LaidOut RateRow.ofRate store.rates (Tables.sortedRates rates) :=
    (List.mergeSort_perm _ _).trans tabulates.laidOut
  obtain ⟨ordered, same, rowsEq⟩ := sorted.exists_ordered
  have opened : repositories.listRates.run (.migrated ⟨intents, records, some rates⟩) =
      (readable ((Tables.sortedRates rates).mapM RateRow.read), .migrated _) := rfl
  refine ⟨ordered, same, ?_⟩
  rw [opened]
  by_cases writable : ∀ rate ∈ store.rates, rate.updatedAt.IsWritable
  · have readAll : (Tables.sortedRates rates).mapM RateRow.read =
        .ok (ordered.map ConversionRate.stored) := by
      rw [rowsEq]
      refine mapM_layout fun rate member => ?_
      have stored := same.mem_iff.mp member
      exact RateRow.read_ofRate (tabulates.storable rate stored).isTime (writable rate stored)
    rw [readAll]
    exact .answered writable
  · obtain ⟨rate, stored, notWritable⟩ :
        ∃ rate, rate ∈ store.rates ∧ ¬ rate.updatedAt.IsWritable := by simpa using writable
    obtain ⟨fault, unreadable⟩ := RateRow.read_ofRate_of_not_writable notWritable
    obtain ⟨first, failed⟩ := mapM_of_error (sorted.mem stored) unreadable
    rw [failed]
    exact .unreadable writable

theorem distinctRates
    (holds : database.Holds store) :
    (store.rates.map (·.currency)).Nodup := by
  obtain ⟨_, rfl, holds⟩ := holds
  obtain ⟨_, -, tabulates⟩ := holds.rates
  exact tabulates.distinct

theorem rateTable
    (holds : database.Holds store) :
    ∃ table, RateTable.IsUnsigned table store.rateTable ∧
      Reads (∀ rate ∈ store.rates, rate.updatedAt.IsWritable) table database
        (repositories.rateTable.run database) := by
  obtain ⟨ordered, same, reads⟩ := holds.listRates
  refine ⟨.ofList ((ordered.map ConversionRate.stored).map fun rate => (rate.currency, rate.rate)),
    MemoryStore.isUnsigned_ofRates holds.distinctRates (same.map ConversionRate.stored), ?_⟩
  rcases listed : repositories.listRates.run database with ⟨error | rates, reached⟩
  · rw [listed] at reads
    rw [Repositories.rateTable, Action.run_bind_error _ listed]
    cases reads with
    | unreadable notWritable => exact .unreadable notWritable
  · rw [listed] at reads
    rw [Repositories.rateTable, Action.run_bind_ok _ listed]
    cases reads with
    | answered writable => exact .answered writable

end Database.Holds

end IntentPolicy
