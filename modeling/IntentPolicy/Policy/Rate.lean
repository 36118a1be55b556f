import IntentPolicy.Intent.Vocabulary
import IntentPolicy.Number.DecimalReading
import IntentPolicy.Time.Instant

namespace IntentPolicy

/-!
# Conversion rates

Rates that turn one unit of a currency into the canonical one, which itself always
converts at one.  A rate that is entered by hand has to be positive and of another
currency.
-/

/-- A stored rate. -/
structure ConversionRate where
  currency : Currency
  rate : Decimal
  updatedAt : Instant
  deriving DecidableEq

/-- The rates at hand. -/
structure RateTable where
  lookup : Currency → Option Decimal

namespace RateTable

/-- No rates at all. -/
def empty : RateTable := ⟨fun _ => none⟩

/-- Set the rate of one currency. -/
def set (table : RateTable) (currency : Currency) (rate : Decimal) : RateTable :=
  ⟨fun other => if other = currency then some rate else table.lookup other⟩

/-- The table of a list of rates; of two rates of one currency the later counts. -/
def ofList (rates : List (Currency × Decimal)) : RateTable :=
  rates.foldl (fun table entry => table.set entry.1 entry.2) empty

/-- The rates held, in the order of the currencies. -/
def entries (table : RateTable) : List (Currency × Decimal) :=
  Vocabulary.all.filterMap fun currency => (table.lookup currency).map (currency, ·)

/-- The rate at which a currency converts, if one is known. -/
def rateFor? (table : RateTable) (currency : Currency) : Option Decimal :=
  if currency = .canonical then some .one else table.lookup currency

/-- What is said about a currency without a rate. -/
def unknownMessage (currency : Currency) : String :=
  s!"no conversion rate known for currency {currency.code}"

end RateTable

/-- Why a rate that was entered is not taken. -/
inductive RateEntryError where
  | unsupportedCurrency (currency : String)
  | canonicalCurrency
  | unreadableRate (rate : String)
  | notPositive (rate : Decimal)
  deriving DecidableEq

/-- The wording of the error. -/
def RateEntryError.message : RateEntryError → String
  | .unsupportedCurrency currency => s!"unsupported currency `{currency}`"
  | .canonicalCurrency =>
      s!"{Currency.canonical.code} is the canonical currency and always converts at 1"
  | .unreadableRate rate => s!"invalid rate `{rate}`"
  | .notPositive rate => s!"rate must be positive, got {rate.text}"

/-- Check a currency and a rate as they were entered. -/
def readRateEntry (currency rate : String) : Except RateEntryError (Currency × Decimal) :=
  match Currency.ofText? currency with
  | none => .error (.unsupportedCurrency currency)
  | some known =>
      if known = .canonical then .error .canonicalCurrency
      else
        match Decimal.ofText? (trimmed rate) with
        | none => .error (.unreadableRate rate)
        | some amount =>
            if amount.isPositive then .ok (known, amount.normalize)
            else .error (.notPositive amount)

end IntentPolicy
