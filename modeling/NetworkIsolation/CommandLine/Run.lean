import NetworkIsolation.CommandLine.Tasks

/-!
# Running a command line

From words to an exit status: the words are read, the log filter is chosen, the
settings are loaded, the tools are looked for where they are needed, and the
task is run.  `run` is the whole program on a host.
-/

namespace NetworkIsolation.CommandLine

open NetworkIsolation.Configuration NetworkIsolation.FileSystem NetworkIsolation.Reconcile
open NetworkIsolation.Backend NetworkIsolation.Store NetworkIsolation.Text

/-- The filter of the environment, or the one that the options ask for. -/
def chosenFilter (host : Host) (choices : CommonChoices) : LogFilter :=
  let fallback : LogFilter :=
    .upTo (if choices.trace then .trace else if choices.verbose then .debug else .warn)
  ((host.setting? "NETFENCE_LOG").bind LogFilter.parse?).getD fallback

/-- A path in the home directory is written with a tilde and a slash. -/
def expandHome (host : Host) (path : String) : String :=
  match path.toList, host.setting? "HOME" with
  | '~' :: '/' :: rest, some home => joinPath home (String.ofList rest)
  | _, _ => path

/-- Read the settings of a file. -/
def settingsOf (files : Files) (path : String) : Except ConfigurationError Settings :=
  match files.readText path with
  | .ok text => Settings.parse text
  | .error cause => .error (.unreadableSettings cause)

/-- The settings file: the one that was given, or the one in the store if there is one. -/
def settingsPath? (host : Host) (choices : CommonChoices) (store : String) : Option String :=
  let usual := joinPath store "netfence.toml"
  match choices.config with
  | some path => some path
  | none => if host.files.isFile usual then some usual else none

/-- The settings of the settings file. -/
def storedSettings (host : Host) (choices : CommonChoices) (store : String) :
    Except TaskFailure Settings :=
  match settingsPath? host choices store with
  | some path => (settingsOf host.files path).mapError (.settings path)
  | none => .ok {}

/-- The settings with the model that was given. -/
def withModel (settings : Settings) : Option String → Except TaskFailure Settings
  | none => .ok settings
  | some model =>
    if isAllBlank model then .error .blankModel
    else .ok { settings with fabric := { settings.fabric with model } }

/-- Load the settings. -/
def loadSettings (choices : CommonChoices) (store : String) : TaskAction Settings := do
  let settings ← (storedSettings (← get) choices store : Except TaskFailure Settings)
  let settings ← (withModel settings choices.model : Except TaskFailure Settings)
  (note .commandLine .debug ("using model " ++ settings.fabric.model) : StateM Host Unit)
  return settings

/-- Whether a task works on the backends. -/
def Task.needsTools : Task → Bool
  | .plan _ => true
  | .apply _ _ => true
  | _ => false

/-- Look for the tools that a task needs, unless the environment says not to. -/
def requireTools (task : Task) (settings : Settings) : TaskAction Unit := do
  let host ← get
  if task.needsTools && host.setting? "NETFENCE_SKIP_PREREQS" ≠ some "1" then
    let missing := missingOn host settings
    if !missing.isEmpty then throw (.missingTools missing)

/-- The engine on the store of a host. -/
def engineOn (host : Host) (layout : Layout) (settings : Settings) : Engine Host :=
  ⟨layout.store Host.filesPart host.now, settings⟩

/-- Run a task on an engine. -/
def runOnEngine (choices : CommonChoices) (engine : Engine Host) (layout : Layout) :
    Task → TaskAction Bool
  | .importDocument file => importTask engine file choices.json
  | .setRanges ranges => rangesTask engine ranges choices.json
  | .plan selection => planTask engine selection choices.json
  | .apply selection importFirst => applyTask engine selection importFirst choices.json
  | .doctor => doctorTask engine layout choices.json
  | _ => showTask engine choices.json

/-- Run a task on a store. -/
def runOnStore (choices : CommonChoices) (task : Task) : TaskAction Bool := do
  let store := expandHome (← get) choices.store
  let settings ← loadSettings choices store
  requireTools task settings
  runOnEngine choices (engineOn (← get) ⟨store⟩ settings) ⟨store⟩ task

/-- Run a task. -/
def runTask (choices : CommonChoices) (task : Task) : TaskAction Bool :=
  match task with
  | .completions shell => completionsTask shell
  | .manualPages directory => manualTask directory
  | _ => runOnStore choices task

/-- The exit status of a task, which says why it failed. -/
def finish : Except TaskFailure Bool → StateM Host Nat
  | .ok true => return 0
  | .ok false => return 1
  | .error failure => do
    Host.tell ("error: " ++ failure.message)
    return failure.exitStatus

/-- Do what was asked for. -/
def answerRequest : Request → StateM Host Nat
  | .help command => do
    Host.say (helpText command)
    return 0
  | .version => do
    Host.say versionText
    return 0
  | .run choices task => do
    modify fun host => { host with filter := chosenFilter host choices }
    finish (← (runTask choices task).run)

/-- Run a command line to an exit status. -/
def run (words : List String) : StateM Host Nat :=
  match Request.parse words with
  | .ok request => answerRequest request
  | .error fault => do
    Host.tell (usageText fault)
    return 2

end NetworkIsolation.CommandLine
