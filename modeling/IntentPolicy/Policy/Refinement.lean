import IntentPolicy.Policy.Translation
import IntentPolicy.Sentence.Parser

namespace IntentPolicy

/-!
# From a sentence to policies

Parsing a sentence and translating the intent it asks for.
-/

/-- Why a sentence has no policies. -/
inductive RefinementError where
  | sentence (error : SentenceError)
  | translation (error : TranslationError)
  deriving DecidableEq

/-- The wording of the error. -/
def RefinementError.message : RefinementError → String
  | .sentence error => error.message
  | .translation error => error.message

/-- The intent that a sentence asks for, and its policies. -/
def Translator.refine (translator : Translator) (text : String) :
    Except RefinementError (Intent × List Policy) :=
  match parseSentence text with
  | .error error => .error (.sentence error)
  | .ok intent =>
      match translator.translate intent with
      | .error error => .error (.translation error)
      | .ok policies => .ok (intent, policies)

end IntentPolicy
