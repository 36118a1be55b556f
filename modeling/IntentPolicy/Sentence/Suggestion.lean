import IntentPolicy.Sentence.Parser

namespace IntentPolicy

/-!
# Suggestions

Feedback for a sentence that is still being typed: whether it is complete, and if not,
what is wrong and which words would lead on.
-/

/-- Feedback for a sentence that is still being typed. -/
structure Suggestion where
  complete : Bool
  message : String
  expected : List String
  deriving Repr, DecidableEq

/-- The feedback for a sentence that is not accepted. -/
def Suggestion.ofError (error : SentenceError) : Suggestion :=
  ⟨false, error.message, error.expected⟩

/-- The feedback for a complete sentence. -/
def Suggestion.ofComplete : Suggestion :=
  ⟨true, "intent is complete", []⟩

/-- The feedback for a text. -/
def suggest (text : String) : Suggestion :=
  match parseSentence text with
  | .ok _ => .ofComplete
  | .error error => .ofError error

end IntentPolicy
