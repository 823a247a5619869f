import NetworkIsolation.Backend.Command
import NetworkIsolation.Backend.Fabric
import NetworkIsolation.Document.Reader
import NetworkIsolation.Text.Sorted

/-!
# The fabric through `juju`

Every operation runs one `juju` command for a model.  Lists are read from the
command's JSON output, of which only the names are looked at.
-/

namespace NetworkIsolation.Backend

open NetworkIsolation.Document NetworkIsolation.Json NetworkIsolation.Text

/-- How `juju` is called. -/
structure Juju where
  program : String
  model : String
  deriving DecidableEq, Repr

/-- One space in the output of `juju spaces`. -/
def spaceEntry : Record String where
  name := "SpaceEntry"
  fields := [.need "name" .string fun name _ => name]
  strict := false
  start := ""

/-- The output of `juju spaces`. -/
def spacesOutput : Record (List String) where
  name := "SpacesOutput"
  fields := [.allow "spaces" (.list spaceEntry.reader) fun names _ => names]
  strict := false
  start := []

/-- The output of `juju status`. -/
def statusOutput : Record Bucket where
  name := "StatusOutput"
  fields := [.allow "applications" .bucket fun applications _ => applications]
  strict := false
  start := []

namespace Juju

/-- A command whose model comes last. -/
def command (juju : Juju) (arguments : List String) : Command :=
  ⟨juju.program :: arguments ++ ["--model", juju.model], none⟩

/-- The command that sets a configuration of the model, where the model comes first. -/
def modelConfigCommand (juju : Juju) (assignment : String) : Command :=
  ⟨[juju.program, "model-config", "--model", juju.model, assignment], none⟩

/-- The command that sets a configuration of an application. -/
def applicationConfigCommand (juju : Juju) (application assignment : String)
    (jsonOutput : Bool) : Command :=
  juju.command
    (["config", application, assignment] ++ if jsonOutput then ["--format", "json"] else [])

/-- Read the output of a command, or say which command it was. -/
def readOutput {α : Type} (reader : Reader α) (name output : String) : Reply α :=
  match reader.decode output with
  | .ok value => .ok value
  | .error error => .error (.unexpectedOutput (name ++ ": " ++ error.message))

/-- The names of the spaces in the output of `juju spaces`. -/
def spacesOf (output : String) : Reply (List String) :=
  (readOutput spacesOutput.reader "juju spaces" output).map sorted

/-- The names of the applications in the output of `juju status`. -/
def applicationsOf (output : String) : Reply (List String) :=
  (readOutput statusOutput.reader "juju status" output).map fun applications =>
    sorted applications.names

variable {σ : Type}

/-- Run a command and read its output. -/
def query {α : Type} (invoker : Invoker σ) (command : Command) (read : String → Reply α) :
    StateM σ (Reply α) := do
  match ← invoker.run command with
  | .ok output => return read output
  | .error error => return .error error

/-- The fabric of a model through an invoker. -/
def fabric (juju : Juju) (invoker : Invoker σ) : Fabric σ where
  scope := juju.model
  listSpaces := query invoker (juju.command ["spaces", "--format", "json"]) spacesOf
  addSpace name subnets :=
    query invoker (juju.command (["add-space", name] ++ subnets)) fun _ => .ok ()
  setSpaceSubnets name subnets :=
    query invoker (juju.command (["set-space-subnets", name] ++ subnets)) fun _ => .ok ()
  setModelConfig assignment :=
    query invoker (juju.modelConfigCommand assignment) fun _ => .ok ()
  listApplications := query invoker (juju.command ["status", "--format", "json"]) applicationsOf
  setApplicationConfig application assignment jsonOutput :=
    query invoker (juju.applicationConfigCommand application assignment jsonOutput) .ok

end Juju

end NetworkIsolation.Backend
