import IntentPolicy.Command.Result
import IntentPolicy.Intent.Rendering
import IntentPolicy.Payload.Intent
import IntentPolicy.Sentence.Suggestion

namespace IntentPolicy

/-!
# Checking a sentence

A command that needs neither a configuration nor a store: it reads a sentence and shows
its intent, or what is wrong with it and how it could go on.
-/

/-- Feedback as JSON. -/
def Suggestion.payload (suggestion : Suggestion) : Json :=
  .object
    [("complete", .bool suggestion.complete),
      ("message", .text suggestion.message),
      ("expected", .texts suggestion.expected)]

/-- Check a sentence. -/
def parseCommand (text : String) : CommandResult :=
  match parseSentence text with
  | .ok intent =>
      .success "parse" Suggestion.ofComplete.message
        (.object [("intent", intent.payload), ("rendered", .text intent.render)])
  | .error error =>
      let suggestion := Suggestion.ofError error
      .failure "parse" FailureClass.badRequest.name suggestion.message
        FailureClass.badRequest.exitCode suggestion.payload

end IntentPolicy
