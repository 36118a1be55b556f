import IntentPolicy.Intent.WordSet
import IntentPolicy.Number.Decimal
import IntentPolicy.Text.Sorted

namespace IntentPolicy

/-!
# Intents

What one sentence asks for: for whom, when, on which blockchain, handled how, and up to
which costs.  Two intents agree when they ask for the same, whatever the order and
repetition of users and the scale of the threshold.
-/

/-- What one sentence asks for. -/
structure Intent where
  users : List String := []
  timeframe : Option Timeframe := none
  blockchain : Option Blockchain := none
  profile : Option Profile := none
  filters : WordSet Filter := .empty
  whitelist : WordSet Blockchain := .empty
  blacklist : WordSet Blockchain := .empty
  modifiers : WordSet Modifier := .empty
  interval : Option Interval := none
  currency : Option Currency := none
  threshold : Option Decimal := none
  deriving DecidableEq

namespace Intent

instance : Inhabited Intent := ⟨{}⟩

/-- Name a user, once. -/
def addUser (intent : Intent) (user : String) : Intent :=
  if user ∈ intent.users then intent else { intent with users := intent.users ++ [user] }

/-- The users in the order of their bytes, each once. -/
def userSet (intent : Intent) : List String :=
  sortedTexts intent.users

/-- The intent leaves costs unbounded. -/
def isDefault (intent : Intent) : Bool :=
  intent.interval.isNone

/-- Two optional amounts are both absent or of one value. -/
def sameThreshold : Option Decimal → Option Decimal → Bool
  | none, none => true
  | some left, some right => left.sameValue right
  | _, _ => false

/-- The two intents ask for the same. -/
def agrees (left right : Intent) : Bool :=
  left.users.all (· ∈ right.users) && right.users.all (· ∈ left.users) &&
    left.timeframe == right.timeframe &&
    left.blockchain == right.blockchain &&
    left.profile == right.profile &&
    left.filters == right.filters &&
    left.whitelist == right.whitelist &&
    left.blacklist == right.blacklist &&
    left.modifiers == right.modifiers &&
    left.interval == right.interval &&
    left.currency == right.currency &&
    sameThreshold left.threshold right.threshold

end Intent

end IntentPolicy
