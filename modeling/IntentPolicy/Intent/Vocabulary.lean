import IntentPolicy.Text.Blank
import IntentPolicy.Text.LowerCase

namespace IntentPolicy

/-!
# Words of intents and policies

The fixed words of the sentence language and of policies.  Each kind of word is an
enumeration with one written word per value; the values are listed in the order of
their words where the words are alphabetical, and in the order of the day otherwise.
-/

/-- An enumeration whose values are written as fixed words. -/
class Vocabulary (Value : Type) where
  all : List Value
  word : Value → String
  mem_all : ∀ value, value ∈ all

namespace Vocabulary

/-- The value with exactly this word. -/
def ofWord? {Value : Type} [Vocabulary Value] (text : String) : Option Value :=
  all.find? fun value => word value == text

/-- The value with this word, whatever the case of ASCII letters and the blanks around it. -/
def ofLooseWord? {Value : Type} [Vocabulary Value] (text : String) : Option Value :=
  ofWord? (asciiLowered (trimmed text))

end Vocabulary

/-- The part of the day in which an intent holds. -/
inductive Timeframe where
  | afternoon
  | day
  | morning
  | night
  deriving Repr, DecidableEq

instance : Vocabulary Timeframe where
  all := [.afternoon, .day, .morning, .night]
  word
    | .afternoon => "afternoon"
    | .day => "day"
    | .morning => "morning"
    | .night => "night"
  mem_all value := by cases value <;> decide

/-- The blockchains that an intent can name. -/
inductive Blockchain where
  | bitcoin
  | eos
  | ethereum
  | hyperledger
  | iota
  | multichain
  | stellar
  deriving Repr, DecidableEq

instance : Vocabulary Blockchain where
  all := [.bitcoin, .eos, .ethereum, .hyperledger, .iota, .multichain, .stellar]
  word
    | .bitcoin => "bitcoin"
    | .eos => "eos"
    | .ethereum => "ethereum"
    | .hyperledger => "hyperledger"
    | .iota => "iota"
    | .multichain => "multichain"
    | .stellar => "stellar"
  mem_all value := by cases value <;> decide

/-- What an intent asks the selected blockchain to be best at. -/
inductive Profile where
  | cheapest
  | fastest
  deriving Repr, DecidableEq

instance : Vocabulary Profile where
  all := [.cheapest, .fastest]
  word
    | .cheapest => "cheapest"
    | .fastest => "fastest"
  mem_all value := by cases value <;> decide

/-- A property that an intent asks of the selected blockchain. -/
inductive Filter where
  | cheap
  | fast
  | popular
  | privateChain
  | publicChain
  | stable
  deriving Repr, DecidableEq

instance : Vocabulary Filter where
  all := [.cheap, .fast, .popular, .privateChain, .publicChain, .stable]
  word
    | .cheap => "cheap"
    | .fast => "fast"
    | .popular => "popular"
    | .privateChain => "private"
    | .publicChain => "public"
    | .stable => "stable"
  mem_all value := by cases value <;> decide

/-- How transactions are to be handled. -/
inductive Modifier where
  | encryption
  | redundancy
  | splitting
  deriving Repr, DecidableEq

instance : Vocabulary Modifier where
  all := [.encryption, .redundancy, .splitting]
  word
    | .encryption => "encryption"
    | .redundancy => "redundancy"
    | .splitting => "splitting"
  mem_all value := by cases value <;> decide

/-- The interval over which costs add up. -/
inductive Interval where
  | daily
  | weekly
  | monthly
  | yearly
  deriving Repr, DecidableEq

instance : Vocabulary Interval where
  all := [.daily, .weekly, .monthly, .yearly]
  word
    | .daily => "daily"
    | .weekly => "weekly"
    | .monthly => "monthly"
    | .yearly => "yearly"
  mem_all value := by cases value <;> decide

/-- The currencies of amounts. -/
inductive Currency where
  | chf
  | eur
  | usd
  deriving Repr, DecidableEq

instance : Vocabulary Currency where
  all := [.chf, .eur, .usd]
  word
    | .chf => "chf"
    | .eur => "eur"
    | .usd => "usd"
  mem_all value := by cases value <;> decide

/-- What a policy weighs in the choice of a blockchain. -/
inductive CostProfile where
  | economic
  | performance
  deriving Repr, DecidableEq

instance : Vocabulary CostProfile where
  all := [.economic, .performance]
  word
    | .economic => "economic"
    | .performance => "performance"
  mem_all value := by cases value <;> decide

/-- A point of the day at which a policy starts or ends to hold. -/
inductive TimeMarker where
  | anyTime
  | dayStart
  | afternoonStart
  | nightStart
  deriving Repr, DecidableEq

instance : Vocabulary TimeMarker where
  all := [.anyTime, .dayStart, .afternoonStart, .nightStart]
  word
    | .anyTime => "default"
    | .dayStart => "day_start"
    | .afternoonStart => "afternoon_start"
    | .nightStart => "night_start"
  mem_all value := by cases value <;> decide

/-- The interval of a policy's cost bound, if it has one. -/
inductive PolicyInterval where
  | unbounded
  | daily
  | weekly
  | monthly
  | yearly
  deriving Repr, DecidableEq

instance : Vocabulary PolicyInterval where
  all := [.unbounded, .daily, .weekly, .monthly, .yearly]
  word
    | .unbounded => "default"
    | .daily => "daily"
    | .weekly => "weekly"
    | .monthly => "monthly"
    | .yearly => "yearly"
  mem_all value := by cases value <;> decide

/-- The kind of blockchain that a policy admits. -/
inductive ChainType where
  | indifferent
  | privateChain
  | publicChain
  deriving Repr, DecidableEq

instance : Vocabulary ChainType where
  all := [.indifferent, .privateChain, .publicChain]
  word
    | .indifferent => "indifferent"
    | .privateChain => "private"
    | .publicChain => "public"
  mem_all value := by cases value <;> decide

/-- The word of a value. -/
def wordOf {Value : Type} [Vocabulary Value] (value : Value) : String :=
  Vocabulary.word value

/-- The symbol under which a blockchain's coin is traded. -/
def Blockchain.ticker : Blockchain → String
  | .bitcoin => "BTC"
  | .eos => "EOS"
  | .ethereum => "ETH"
  | .hyperledger => "HYP"
  | .iota => "MIOTA"
  | .multichain => "MLC"
  | .stellar => "XLM"

/-- The code of a currency in capital letters. -/
def Currency.code : Currency → String
  | .chf => "CHF"
  | .eur => "EUR"
  | .usd => "USD"

/-- The currency in which all policies are kept. -/
def Currency.canonical : Currency := .usd

/-- The currency written with this word, in any case of ASCII letters. -/
def Currency.ofText? (text : String) : Option Currency :=
  Vocabulary.ofLooseWord? text

/-- The filter that a profile implies, so that naming it adds nothing. -/
def Profile.impliedFilter : Profile → Filter
  | .cheapest => .cheap
  | .fastest => .fast

/-- The filter that cannot be combined with this one. -/
def Filter.opposite? : Filter → Option Filter
  | .privateChain => some .publicChain
  | .publicChain => some .privateChain
  | _ => none

/-- The cost profile that serves a profile. -/
def Profile.costProfile : Profile → CostProfile
  | .cheapest => .economic
  | .fastest => .performance

/-- The policy interval of an interval. -/
def Interval.policyInterval : Interval → PolicyInterval
  | .daily => .daily
  | .weekly => .weekly
  | .monthly => .monthly
  | .yearly => .yearly

/-- The points of the day between which a timeframe lies. -/
def Timeframe.markers : Timeframe → TimeMarker × TimeMarker
  | .afternoon => (.afternoonStart, .nightStart)
  | .day => (.dayStart, .nightStart)
  | .morning => (.dayStart, .afternoonStart)
  | .night => (.nightStart, .dayStart)

end IntentPolicy
