import IntentPolicy.Intent.Basic
import IntentPolicy.Text.Json

namespace IntentPolicy

/-!
# Intents as JSON

The words of an intent are written as they are in a sentence, a currency by its code and
an amount by its text.  What an intent leaves open is null.
-/

/-- The words of a set, in the order of their vocabulary. -/
def WordSet.payload {Value : Type} [DecidableEq Value] [Vocabulary Value]
    (members : WordSet Value) : Json :=
  .texts members.words

/-- The word of an optional value, null when absent. -/
def optionalWord {Value : Type} [Vocabulary Value] (value : Option Value) : Json :=
  .optionalText (value.map wordOf)

/-- An intent as JSON. -/
def Intent.payload (intent : Intent) : Json :=
  .object
    [("users", .texts intent.users),
      ("timeframe", optionalWord intent.timeframe),
      ("blockchain", optionalWord intent.blockchain),
      ("profile", optionalWord intent.profile),
      ("filters", intent.filters.payload),
      ("whitelist", intent.whitelist.payload),
      ("blacklist", intent.blacklist.payload),
      ("modifiers", intent.modifiers.payload),
      ("interval", optionalWord intent.interval),
      ("currency", .optionalText (intent.currency.map Currency.code)),
      ("threshold", .optionalText (intent.threshold.map Decimal.text))]

end IntentPolicy
