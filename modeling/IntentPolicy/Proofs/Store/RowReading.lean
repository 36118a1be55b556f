import IntentPolicy.Proofs.Number.DecimalReading
import IntentPolicy.Proofs.Reconciliation.Standing
import IntentPolicy.Proofs.Text.JsonWords
import IntentPolicy.Proofs.Time.WrittenInstants

namespace IntentPolicy

/-!
# What rows give back

A row gives back what was stored, with times cut to whole microseconds and without signs of
zero.  Only times whose years do not have four digits cannot be read.
-/

namespace Double

@[simp]
theorem isNaN_unsignedZero
    (number : Double) :
    number.unsignedZero.isNaN = number.isNaN := by
  by_cases isZero : number.isZero = true
  · have noNaN : number.isNaN = false := by
      simp only [Double.isZero, decide_eq_true_eq] at isZero
      simp [isNaN, isZero]
    rw [unsignedZero, if_pos isZero, noNaN]
    decide
  · rw [unsignedZero, if_neg isZero]

@[simp]
theorem unsignedZero_unsignedZero
    (number : Double) :
    number.unsignedZero.unsignedZero = number.unsignedZero := by
  by_cases isZero : number.isZero = true
  · have isPositive : number.unsignedZero = .zero := if_pos isZero
    rw [isPositive]
    decide
  · have unchanged : number.unsignedZero = number := if_neg isZero
    rw [unchanged, unchanged]

@[simp]
theorem orderKey_unsignedZero
    (number : Double) :
    number.unsignedZero.orderKey = number.orderKey := by
  by_cases isZero : number.isZero = true
  · have noMagnitude : number.magnitudeBits = 0 := by simpa [Double.isZero] using isZero
    have zeroKey : Double.zero.orderKey = 0 := by decide
    rw [unsignedZero, if_pos isZero, zeroKey]
    simp [orderKey, noMagnitude]
  · rw [unsignedZero, if_neg isZero]

end Double

/-- What a row gives back of a policy. -/
def Policy.stored (policy : Policy) : Policy :=
  { policy with
    threshold := policy.threshold.unsignedZero
    maxTxCost := policy.maxTxCost.unsignedZero
    minPopularity := policy.minPopularity.unsignedZero
    minStability := policy.minStability.unsignedZero }

/-- What a row gives back of a record. -/
def PolicyRecord.stored (record : PolicyRecord) : PolicyRecord :=
  { record with
    policy := record.policy.stored
    createdAt := record.createdAt.cut
    updatedAt := record.updatedAt.cut }

/-- What a row gives back of an intent. -/
def IntentRecord.stored (intent : IntentRecord) : IntentRecord :=
  { intent with createdAt := intent.createdAt.cut, updatedAt := intent.updatedAt.cut }

/-- What a row gives back of a rate. -/
def ConversionRate.stored (rate : ConversionRate) : ConversionRate :=
  { rate with rate := rate.rate.unsignedZero, updatedAt := rate.updatedAt.cut }

/-- A vocabulary whose words are read back, blanks and letter case aside. -/
class LooseWords (Value : Type) [Vocabulary Value] : Prop where
  ofLooseWord?_wordOf : ∀ value : Value, Vocabulary.ofLooseWord? (wordOf value) = some value

instance : LooseWords CostProfile where
  ofLooseWord?_wordOf value := by cases value <;> rfl

instance : LooseWords TimeMarker where
  ofLooseWord?_wordOf value := by cases value <;> rfl

instance : LooseWords PolicyInterval where
  ofLooseWord?_wordOf value := by cases value <;> rfl

instance : LooseWords Currency where
  ofLooseWord?_wordOf value := by cases value <;> rfl

instance : LooseWords ChainType where
  ofLooseWord?_wordOf value := by cases value <;> rfl

section Cells

variable (column : String)

theorem readWord_wordOf
    {Value : Type}
    [Vocabulary Value]
    [LooseWords Value]
    (value : Value) :
    readWord column (wordOf value) = .ok value := by
  rw [readWord, LooseWords.ofLooseWord?_wordOf]

theorem readAmount_text
    (amount : Decimal) :
    readAmount column amount.text = .ok amount.unsignedZero := by
  rw [readAmount, Decimal.ofText_text]

theorem readCount_ofCount
    (count : UInt32) :
    (NumberCell.ofCount count).readCount column = .ok count := by
  have inRange : count.toNat < 2 ^ 32 := count.toNat_lt
  have bound : ((twoTo 32 : Nat) : Int) = 2 ^ 32 := rfl
  have accepted : (0 ≤ (count.toNat : Int) && (count.toNat : Int) < (twoTo 32 : Nat)) = true := by
    rw [bound, Bool.and_eq_true, decide_eq_true_eq, decide_eq_true_eq]
    omega
  rw [NumberCell.ofCount, NumberCell.readCount, if_pos accepted, Int.toNat_natCast,
    UInt32.ofNat_toNat]

theorem readFlag_ofFlag
    (flag : Bool) :
    (NumberCell.ofFlag flag).readFlag column = .ok flag := by
  cases flag <;> rfl

end Cells

namespace Policy

variable {policy left right : Policy}

@[simp]
theorem stored_stored (policy : Policy) : policy.stored.stored = policy.stored := by
  simp [stored]

@[simp]
theorem isNaNFree_stored : policy.stored.IsNaNFree ↔ policy.IsNaNFree := by
  constructor
  · rintro ⟨popularity, stability⟩
    exact ⟨by simpa [stored] using popularity, by simpa [stored] using stability⟩
  · rintro ⟨popularity, stability⟩
    exact ⟨by simpa [stored] using popularity, by simpa [stored] using stability⟩

/-- Signs of zero make no difference to whether policies agree. -/
@[simp]
theorem stored_agrees
    (left right : Policy) :
    left.stored.agrees right = left.agrees right := by
  simp [agrees, stored, Decimal.sameValue, Double.sameValue]

@[simp]
theorem agrees_stored
    (left right : Policy) :
    left.agrees right.stored = left.agrees right := by
  simp [agrees, stored, Decimal.sameValue, Double.sameValue]

theorem agrees_of_stored_eq
    (nanFree : left.IsNaNFree)
    (same : left.stored = right.stored) :
    left.agrees right = true := by
  rw [← agrees_stored, ← same, agrees_stored]
  exact nanFree.agrees_self

end Policy

/-- The record with its times cut to whole microseconds. -/
def PolicyRecord.cut (record : PolicyRecord) : PolicyRecord :=
  { record with createdAt := record.createdAt.cut, updatedAt := record.updatedAt.cut }

@[simp]
theorem PolicyRecord.stored_stored
    (record : PolicyRecord) :
    record.stored.stored = record.stored := by
  simp [PolicyRecord.stored]

theorem PolicyRecord.stored_cut (record : PolicyRecord) : record.stored.cut = record.stored := by
  simp [PolicyRecord.cut, PolicyRecord.stored]

theorem PolicyRecord.stored_of_cut_eq
    {left right : PolicyRecord}
    (same : left.cut = right.cut) :
    left.stored = right.stored := by
  have cutFirst (record : PolicyRecord) :
      record.stored = { record.cut with policy := record.cut.policy.stored } := rfl
  rw [cutFirst left, same, ← cutFirst right]

theorem readTime_microsecondText
    {instant : Instant}
    (column : String)
    (isTime : instant.IsTime)
    (writable : instant.IsWritable) :
    readTime column instant.microsecondText = .ok instant.cut := by
  rw [readTime, Instant.ofText?_microsecondText isTime writable]

theorem readTime_of_not_writable
    {instant : Instant}
    (column : String)
    (unwritable : ¬ instant.IsWritable) :
    readTime column instant.microsecondText = .error (.badTime column) := by
  rw [readTime, Instant.ofText?_microsecondText_of_not_writable unwritable]

namespace RecordRow

variable {record : PolicyRecord}

/-- What a record is laid out as, a NaN as if it could be stored. -/
def layout (record : PolicyRecord) : RecordRow where
  id := some record.id
  intentId := record.intentId
  externalId := record.externalId
  user := record.policy.user
  costProfile := wordOf record.policy.costProfile
  timeframeStart := wordOf record.policy.timeframeStart
  timeframeEnd := wordOf record.policy.timeframeEnd
  interval := wordOf record.policy.interval
  currency := wordOf record.policy.currency
  threshold := record.policy.threshold.text
  splitTransactions := .ofFlag record.policy.splitTransactions
  pool := poolText record.policy.pool
  chainType := wordOf record.policy.chainType
  minTxRate := .ofCount record.policy.minTxRate
  maxBlockTime := .ofCount record.policy.maxBlockTime
  minDataSize := .ofCount record.policy.minDataSize
  maxTxCost := record.policy.maxTxCost.text
  minPopularity := .real record.policy.minPopularity.unsignedZero
  minStability := .real record.policy.minStability.unsignedZero
  turingComplete := .ofFlag record.policy.turingComplete
  encryption := .ofFlag record.policy.encryption
  redundancy := .ofFlag record.policy.redundancy
  createdAt := record.createdAt.microsecondText
  updatedAt := record.updatedAt.microsecondText

theorem ofRecord_of_nanFree
    (nanFree : record.policy.IsNaNFree) :
    ofRecord record = .ok (layout record) := by
  simp only [ofRecord, storedWord_wordOf, storedReal, nanFree.popularity, nanFree.stability]
  rfl

theorem ofRecord_of_nan
    (notNaNFree : ¬ record.policy.IsNaNFree) :
    ∃ fault, ofRecord record = .error fault := by
  cases popularity : record.policy.minPopularity.isNaN with
  | true =>
      refine ⟨.notNull "min_popularity", ?_⟩
      simp only [ofRecord, storedWord_wordOf, storedReal, popularity]
      rfl
  | false =>
      cases stability : record.policy.minStability.isNaN with
      | true =>
          refine ⟨.notNull "min_stability", ?_⟩
          simp only [ofRecord, storedWord_wordOf, storedReal, popularity, stability]
          rfl
      | false => exact (notNaNFree ⟨popularity, stability⟩).elim

/-- Records that differ below the microsecond have one row, or none. -/
theorem ofRecord_of_cut_eq
    {other : PolicyRecord}
    (same : record.cut = other.cut) :
    ofRecord record = ofRecord other := by
  have ofCut (record : PolicyRecord) : ofRecord record.cut = ofRecord record := by
    simp only [ofRecord, PolicyRecord.cut, Instant.microsecondText_cut]
  rw [← ofCut, same, ofCut]

theorem readPolicy_layout
    (record : PolicyRecord) :
    (layout record).readPolicy = .ok record.policy.stored := by
  rw [readPolicy, layout]
  simp only [readWord_wordOf, readAmount_text, readFlag_ofFlag, readCount_ofCount,
    readPool_poolText, NumberCell.readReal]
  exact Eq.refl _

theorem read_layout
    (created : record.createdAt.IsTime)
    (updated : record.updatedAt.IsTime)
    (createdWritable : record.createdAt.IsWritable)
    (updatedWritable : record.updatedAt.IsWritable) :
    (layout record).read = .ok record.stored := by
  have createdAt := readTime_microsecondText "created_at" created createdWritable
  have updatedAt := readTime_microsecondText "updated_at" updated updatedWritable
  rw [read, readPolicy_layout]
  simp only [layout, createdAt, updatedAt]
  rfl

theorem read_layout_of_not_writable
    (created : record.createdAt.IsTime)
    (unwritable : ¬ (record.createdAt.IsWritable ∧ record.updatedAt.IsWritable)) :
    ∃ fault, (layout record).read = .error fault := by
  rw [read, readPolicy_layout]
  by_cases createdWritable : record.createdAt.IsWritable
  · have updatedUnwritable : ¬ record.updatedAt.IsWritable := fun updatedWritable =>
      unwritable ⟨createdWritable, updatedWritable⟩
    refine ⟨.badTime "updated_at", ?_⟩
    simp only [layout, readTime_microsecondText "created_at" created createdWritable,
      readTime_of_not_writable "updated_at" updatedUnwritable]
    rfl
  · refine ⟨.badTime "created_at", ?_⟩
    simp only [layout, readTime_of_not_writable "created_at" createdWritable]
    rfl

end RecordRow

namespace IntentRow

variable {intent : IntentRecord}

theorem ofRecord_stored (intent : IntentRecord) : ofRecord intent.stored = ofRecord intent := by
  simp only [ofRecord, IntentRecord.stored, Instant.microsecondText_cut]

theorem read_ofRecord
    (created : intent.createdAt.IsTime)
    (updated : intent.updatedAt.IsTime)
    (createdWritable : intent.createdAt.IsWritable)
    (updatedWritable : intent.updatedAt.IsWritable) :
    (ofRecord intent).read = .ok intent.stored := by
  have createdAt := readTime_microsecondText "created_at" created createdWritable
  have updatedAt := readTime_microsecondText "updated_at" updated updatedWritable
  rw [read]
  simp only [ofRecord, createdAt, updatedAt]
  rfl

theorem read_ofRecord_of_not_writable
    (created : intent.createdAt.IsTime)
    (unwritable : ¬ (intent.createdAt.IsWritable ∧ intent.updatedAt.IsWritable)) :
    ∃ fault, (ofRecord intent).read = .error fault := by
  rw [read]
  by_cases createdWritable : intent.createdAt.IsWritable
  · have updatedUnwritable : ¬ intent.updatedAt.IsWritable := fun updatedWritable =>
      unwritable ⟨createdWritable, updatedWritable⟩
    refine ⟨.badTime "updated_at", ?_⟩
    simp only [ofRecord, readTime_microsecondText "created_at" created createdWritable,
      readTime_of_not_writable "updated_at" updatedUnwritable]
    rfl
  · refine ⟨.badTime "created_at", ?_⟩
    simp only [ofRecord, readTime_of_not_writable "created_at" createdWritable]
    rfl

end IntentRow

namespace RateRow

variable {rate : ConversionRate}

theorem ofRate_cut (rate : ConversionRate) :
    ofRate { rate with updatedAt := rate.updatedAt.cut } = ofRate rate := by
  simp only [ofRate, Instant.microsecondText_cut]

theorem read_ofRate
    (updated : rate.updatedAt.IsTime)
    (writable : rate.updatedAt.IsWritable) :
    (ofRate rate).read = .ok rate.stored := by
  have updatedAt := readTime_microsecondText "updated_at" updated writable
  rw [read]
  simp only [ofRate, readKey, Option.getD_some, readWord_wordOf, readAmount_text, updatedAt]
  rfl

theorem read_ofRate_of_not_writable
    (unwritable : ¬ rate.updatedAt.IsWritable) :
    ∃ fault, (ofRate rate).read = .error fault := by
  refine ⟨.badTime "updated_at", ?_⟩
  rw [read]
  simp only [ofRate, readKey, Option.getD_some, readWord_wordOf, readAmount_text,
    readTime_of_not_writable "updated_at" unwritable]
  rfl

end RateRow

end IntentPolicy
