import NetworkIsolation.FileSystem.SystemError
import NetworkIsolation.Json.Fault

/-!
# Backend errors

Why a command or a call to a backend failed.
-/

namespace NetworkIsolation.Backend

open NetworkIsolation.FileSystem NetworkIsolation.Json

/-- Why a backend did not do what it was asked. -/
inductive BackendError where
  | system (cause : SystemError)
  | notStarted (program : String) (cause : SystemError)
  /-- The command ended with a status, or was ended from outside. -/
  | commandFailed (command : String) (status : Option Int) (output : String)
  | executionFailed (reason : String)
  | unexpectedOutput (reason : String)
  | unavailable (backend : String)
  | api (reason : String)
  | malformed (cause : DecodeError)
  deriving DecidableEq, Repr

/-- The text of a backend error. -/
def BackendError.message : BackendError → String
  | .system cause => "runtime I/O error: " ++ cause.message
  | .notStarted program cause => "failed to start '" ++ program ++ "': " ++ cause.message
  | .commandFailed command (some status) output =>
    "command '" ++ command ++ "' failed (exit " ++ toString status ++ "): " ++ output
  | .commandFailed command none output => "command '" ++ command ++ "' failed: " ++ output
  | .executionFailed reason => "runtime execution failed: " ++ reason
  | .unexpectedOutput reason => "unexpected command output: " ++ reason
  | .unavailable backend => "backend '" ++ backend ++ "' is not available on this system"
  | .api reason => "resource API error: " ++ reason
  | .malformed cause => "serialization error: " ++ cause.message

/-- What a backend answers. -/
abbrev Reply (α : Type) := Except BackendError α

end NetworkIsolation.Backend
