import NetworkIsolation.CommandLine.Diagnosis
import NetworkIsolation.CommandLine.Manual

/-!
# Tasks

What each command does on a host, and what it writes.  A task ends well, ends
with a finding that its output shows, or fails with a message.
-/

namespace NetworkIsolation.CommandLine

open NetworkIsolation.Backend NetworkIsolation.Configuration NetworkIsolation.FileSystem
open NetworkIsolation.Json NetworkIsolation.Reconcile NetworkIsolation.Store
open NetworkIsolation.Text

/-- Why a task failed. -/
inductive TaskFailure where
  | settings (path : String) (cause : ConfigurationError)
  | blankModel
  | missingTools (missing : List MissingTool)
  | engine (cause : EngineError)
  | nothingToSet
  | noDirectory (cause : SystemError)
  | notWritten (path : String) (cause : SystemError)
  deriving DecidableEq, Repr

/-- The words for a failure. -/
def TaskFailure.message : TaskFailure → String
  | .settings path cause => "configuration error: " ++ path ++ ": " ++ cause.message
  | .blankModel => "configuration error: --model must not be empty"
  | .missingTools missing => missingMessage missing
  | .engine cause => cause.message
  | .nothingToSet => "nothing to set: pass --public, --internal, --shared or --clear"
  | .noDirectory cause => "failed to create dir: " ++ cause.message
  | .notWritten path cause => "failed to write " ++ path ++ ": " ++ cause.message

/-- How messages about the configuration begin. -/
def configurationStarts : List String :=
  ["configuration error:", "failed to read settings", "failed to parse settings"]

/-- How messages about the store begin. -/
def storeStarts : List String :=
  ["store error:", "store lock:"]

/-- The exit status for a message: 2 for the configuration, 3 for the store, 1 for the rest. -/
def statusOfMessage (message : String) : Nat :=
  if configurationStarts.any fun start => message.startsWith start then 2
  else if storeStarts.any fun start => message.startsWith start then 3
  else 1

/-- The exit status of a failure, which the beginning of its message tells. -/
def TaskFailure.exitStatus : TaskFailure → Nat
  | .missingTools _ => 1
  | failure => statusOfMessage failure.message

/-- A task on a host, which gives whether everything is well. -/
abbrev TaskAction := ExceptT TaskFailure (StateM Host)

/-- Use the result of the engine. -/
def ofEngine {α : Type} (action : StateM Host (Except EngineError α)) : TaskAction α := do
  match ← action with
  | .ok value => return value
  | .error cause => throw (.engine cause)

/-! ## Configuration tasks -/

/-- Import a document, and say so when there was nothing to import. -/
def importTask (engine : Engine Host) (file : Option String) (json : Bool) : TaskAction Bool := do
  let path := file.getD engine.settings.importing.path
  let document ← ofEngine (engine.importFrom Host.textSource (terminal json) (some path))
  if json then
    sayJson (.object [
      ("path", .string path),
      ("imported", .bool !document.isEmpty),
      ("document", .object document)])
  else if document.isEmpty then
    Host.say ("nothing imported from " ++ path)
  return true

/-- A given value replaces the stored one, trimmed; a blank one removes it. -/
def pickRange (given stored : Option String) : Option String :=
  match given with
  | some text => nonBlank text
  | none => stored

/-- The ranges after a change. -/
def changedRanges (choices : RangeChoices) (stored : PoolRanges) : PoolRanges :=
  ⟨pickRange choices.publicRange stored.publicRange,
    pickRange choices.internalRange stored.internalRange,
    pickRange choices.sharedRange stored.sharedRange⟩

/-- Whether no change was asked for. -/
def RangeChoices.isEmpty (choices : RangeChoices) : Bool :=
  !choices.clear && choices.publicRange.isNone && choices.internalRange.isNone &&
    choices.sharedRange.isNone

/-- The words for a range. -/
def rangeWords (range : Option String) : String :=
  range.getD "(none)"

/-- Change the stored ranges, and say what each pool would get. -/
def rangesTask (engine : Engine Host) (choices : RangeChoices) (json : Bool) :
    TaskAction Bool := do
  if choices.isEmpty then throw .nothingToSet
  let ranges ←
    if choices.clear then pure PoolRanges.none
    else do
      let config ← ofEngine engine.loadConfig
      pure (changedRanges choices config.poolRanges)
  ofEngine (engine.setRanges ranges)
  let resolved := ranges.resolve true
  if json then
    sayJson (.object [("ranges", ranges.toValue), ("resolved", resolved.toValue)])
  else
    Host.say ("public:   " ++ rangeWords resolved.publicRange)
    Host.say ("internal: " ++ rangeWords resolved.internalRange)
  return true

/-- The line of a space. -/
def spaceLine (space : Space) : String :=
  "  " ++ space.name ++ " " ++
    (if space.subnets.isEmpty then "(no subnets, left unchanged)"
    else ", ".intercalate space.subnets)

/-- The lines that show a configuration. -/
def configurationLines (hasColours : Bool) (settings : Settings) (config : IsolationConfig) :
    List String :=
  let title := styled hasColours [.bold]
  let state :=
    if config.enabled then styled hasColours [.green] "enabled"
    else styled hasColours [.yellow] "disabled"
  [title "model:" ++ " " ++ settings.fabric.model, title "isolation:" ++ " " ++ state,
    title "spaces:"] ++
  (if config.spaces.isEmpty then ["  (none)"] else config.spaces.map spaceLine) ++
  [title "pools:"] ++
  PoolRole.all.map fun role =>
    "  " ++ padded 8 role.word ++ " " ++ padded 24 (settings.names.pool role) ++ " " ++
      rangeWords (config.resolvedRanges.get role)

/-- Show the stored configuration. -/
def showTask (engine : Engine Host) (json : Bool) : TaskAction Bool := do
  let config ← ofEngine engine.loadConfig
  if json then
    sayJson (.object [
      ("model", .string engine.settings.fabric.model),
      ("config", config.toValue),
      ("resolved_ranges", config.resolvedRanges.toValue)])
  else
    Host.sayLines (configurationLines (← get).hasColours engine.settings config)
  return true

/-! ## Reconciliation tasks -/

/-- The steps of the stored configuration on the backends of the host. -/
def hostPlan (engine : Engine Host) (selection : StepSelection) :
    TaskAction (List (Step (Session Host Kubectl))) :=
  ofEngine (engine.plan selection (productionFabric engine.settings Host.invoker)
    (productionBalancer engine.settings Host.invoker fun host path => host.files.isFile path))

/-- Check the steps of a plan, and say what they would do. -/
def planTask (engine : Engine Host) (selection : StepSelection) (json : Bool) :
    TaskAction Bool := do
  let steps ← hostPlan engine selection
  let report ← (Session.within (evaluatePlan steps) : StateM Host PlanReport)
  if !json then Host.say ("plan for model " ++ engine.settings.fabric.model ++ ":")
  sayReport json report
  return report.succeeded

/-- Run a plan, after an import if that is asked for, and say what it did. -/
def applyTask (engine : Engine Host) (selection : StepSelection) (importFirst json : Bool) :
    TaskAction Bool := do
  if importFirst then
    let _ ← ofEngine (engine.importFrom Host.textSource (terminal json) none)
  let steps ← hostPlan engine selection
  let report ← (Session.within (runPlan steps) : StateM Host PlanReport)
  sayReport json report
  return report.succeeded

/-- Run all checks, and say what they found. -/
def doctorTask (engine : Engine Host) (layout : Layout) (json : Bool) : TaskAction Bool := do
  let diagnosis ← diagnose engine layout
  sayDiagnosis json diagnosis
  return diagnosis.healthy

/-! ## Manual tasks -/

/-- Run an operation on the files of a host. -/
def onHostFiles (action : FileAction Unit) (failure : SystemError → TaskFailure) :
    TaskAction Unit := do
  let (result, files) := action.run (← get).files
  modify fun host => { host with files }
  match result with
  | .ok () => return ()
  | .error cause => throw (failure cause)

/-- Write the manual pages into a directory. -/
def manualTask (directory : String) : TaskAction Bool := do
  onHostFiles (.createDirectories directory) .noDirectory
  manualPages.forM fun (name, page) =>
    let path := joinPath directory name
    onHostFiles (.whole fun files => files.putFile path page.toUTF8) (.notWritten path)
  Host.say ("man pages written to " ++ directory)
  return true

/-- Write the completions of a shell. -/
def completionsTask (shell : String) : TaskAction Bool := do
  Host.say (completionScript shell)
  return true

end NetworkIsolation.CommandLine
