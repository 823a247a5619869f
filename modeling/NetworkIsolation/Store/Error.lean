import NetworkIsolation.FileSystem.SystemError
import NetworkIsolation.Json.Fault

/-!
# Store errors

Why answers cannot be loaded or saved.
-/

namespace NetworkIsolation.Store

open NetworkIsolation.FileSystem NetworkIsolation.Json

/-- The version of the store format. -/
def formatVersion : Nat := 1

/-- Why a text is no key of answers. -/
inductive KeyFault where
  | length
  | characters (key : String)
  deriving DecidableEq, Repr

/-- The words for a refused key. -/
def KeyFault.message : KeyFault → String
  | .length => "answer key must be 1-128 characters"
  | .characters key =>
    "answer key '" ++ key ++ "' must match [a-zA-Z0-9_.-] and not start with '.'"

/-- Why an operation on a store failed. -/
inductive StoreError where
  | system (cause : SystemError)
  | integrity (key expected actual : String)
  | lockFailed (reason : String)
  | versionMismatch (found : Nat)
  | malformed (cause : DecodeError)
  | invalidKey (cause : KeyFault)
  deriving DecidableEq, Repr

/-- The text of a store error. -/
def StoreError.message : StoreError → String
  | .system cause => "store I/O error: " ++ cause.message
  | .integrity key expected actual =>
    "integrity check failed for answers '" ++ key ++ "': expected " ++ expected ++ ", got " ++
      actual
  | .lockFailed reason => "lock acquisition failed: " ++ reason
  | .versionMismatch found =>
    "store format version mismatch: expected " ++ toString formatVersion ++ ", found " ++
      toString found
  | .malformed cause => "serialization error: " ++ cause.message
  | .invalidKey cause => "invalid answer key: " ++ cause.message

end NetworkIsolation.Store
