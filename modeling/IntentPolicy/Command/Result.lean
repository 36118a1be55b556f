import IntentPolicy.Failure
import IntentPolicy.Text.Json

namespace IntentPolicy

/-!
# Results of commands

What a command prints and the exit code it ends with.  The printed value names the
command, says whether it went well, and carries a message and data.
-/

/-- What a command prints and its exit code. -/
structure CommandResult where
  exitCode : Nat
  output : Json

namespace CommandResult

/-- The printed value of a command; a command that went well has no class of failure. -/
def outcome (command : String) (failure : Option String) (message : String) (data : Json) : Json :=
  .object
    [("command", .text command),
      ("status", .text (if failure.isNone then "ok" else "error")),
      ("error_class", .optionalText failure),
      ("message", .text message),
      ("data", data)]

/-- The command went well. -/
def success (command message : String) (data : Json) : CommandResult :=
  ⟨0, outcome command none message data⟩

/-- The command failed. -/
def failure (command failureClass message : String) (exitCode : Nat) (data : Json) :
    CommandResult :=
  ⟨exitCode, outcome command (some failureClass) message data⟩

/-- The command failed with an error of the service. -/
def ofError (command : String) (error : ServiceError) (correlationId : String) : CommandResult :=
  let shown := error.shown correlationId
  failure command shown.failureClass.name shown.message shown.failureClass.exitCode
    (.object [("correlation_id", .text shown.correlationId)])

end CommandResult

end IntentPolicy
