import IntentPolicy.Intent.Basic

namespace IntentPolicy

/-!
# The canonical sentence of an intent

Every intent is written as one sentence of the language; lists are written with commas
and a final `and`.
-/

/-- Join words as `a`, `a and b`, or `a, b and c`. -/
def joinWords : List String → String
  | [] => ""
  | [word] => word
  | [word, last] => word ++ " and " ++ last
  | word :: rest => word ++ ", " ++ joinWords rest

namespace Intent

/-- A clause that opens with a word and lists others, left out when there are none. -/
def listClause (opening : String) (words : List String) : List String :=
  if words.isEmpty then [] else [opening ++ " " ++ joinWords words]

/-- The clause that names a blockchain, or a profile with its filters. -/
def selectionClause (intent : Intent) : List String :=
  match intent.blockchain, intent.profile with
  | some blockchain, _ => ["select " ++ wordOf blockchain]
  | none, some profile =>
      let filters := if intent.filters.isEmpty then "" else " " ++ joinWords intent.filters.words
      ["select the " ++ wordOf profile ++ filters ++ " blockchain"]
  | none, none => []

/-- The clause that bounds the choice of blockchains. -/
def poolClause (intent : Intent) : List String :=
  if intent.whitelist.isEmpty then listClause "except" intent.blacklist.words
  else listClause "from" intent.whitelist.words

/-- The clause that bounds the costs, or leaves them unbounded. -/
def costClause (intent : Intent) : String :=
  match intent.interval with
  | none => "as default"
  | some interval =>
      let currency := match intent.currency with
        | some currency => " " ++ currency.code
        | none => ""
      let threshold := (intent.threshold.getD Decimal.zero).normalize
      "until the " ++ wordOf interval ++ " costs reach" ++ currency ++ " " ++ threshold.text

/-- The canonical sentence of the intent. -/
def render (intent : Intent) : String :=
  let timeframe := match intent.timeframe with
    | some timeframe => ["in the " ++ wordOf timeframe]
    | none => []
  " ".intercalate
    (listClause "for" intent.users ++ timeframe ++ intent.selectionClause ++ intent.poolClause
      ++ listClause "with" intent.modifiers.words ++ [intent.costClause])

end Intent

end IntentPolicy
