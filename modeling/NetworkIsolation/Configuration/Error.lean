import NetworkIsolation.FileSystem.SystemError
import NetworkIsolation.Json.Fault

/-!
# Configuration errors

Why settings, stored answers or an isolation document cannot be used.
-/

namespace NetworkIsolation.Configuration

open NetworkIsolation.Document NetworkIsolation.FileSystem NetworkIsolation.Json

/-- Why an isolation document is refused although it is JSON. -/
inductive ImportFault where
  | notAnObject
  | wrongShape (cause : Mismatch)
  deriving DecidableEq, Repr

/-- The words for a refused isolation document. -/
def ImportFault.message : ImportFault → String
  | .notAnObject => "top-level value must be an object"
  | .wrongShape cause => cause.message

/-- Why a settings text is refused. -/
inductive SettingsFault where
  /-- It is no TOML, or defines something twice. -/
  | notWellFormed
  | wrongShape (cause : Mismatch)
  deriving DecidableEq, Repr

/-- The words for a refused settings text. -/
def SettingsFault.message : SettingsFault → String
  | .notWellFormed => "TOML parse error"
  | .wrongShape cause => "TOML parse error: " ++ cause.message

/-- Why a configuration cannot be used. -/
inductive ConfigurationError where
  | unreadableSettings (cause : SystemError)
  | badSettings (cause : SettingsFault)
  | badJson (cause : DecodeError)
  | badAnswers (key : String) (cause : Mismatch)
  | badImport (cause : ImportFault)
  | emptyName (field : String)
  | duplicateName (name : String)
  deriving DecidableEq, Repr

/-- The text of a configuration error. -/
def ConfigurationError.message : ConfigurationError → String
  | .unreadableSettings cause => "failed to read settings file: " ++ cause.message
  | .badSettings cause => "failed to parse settings: " ++ cause.message
  | .badJson cause => "failed to parse JSON: " ++ cause.message
  | .badAnswers key cause => "invalid answers for '" ++ key ++ "': " ++ cause.message
  | .badImport cause => "invalid isolation document: " ++ cause.message
  | .emptyName field => field ++ " must not be empty"
  | .duplicateName name =>
    "name '" ++ name ++ "' is used for both public and internal resources"

end NetworkIsolation.Configuration
