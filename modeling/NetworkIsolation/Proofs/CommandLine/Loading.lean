import NetworkIsolation.CommandLine.Run
import NetworkIsolation.Proofs.CommandLine.KeptAnswers

/-!
# Settings and answers that a command line loads

A command line loads its settings, and then the configuration from its store.  Both are
decided by the files, the environment and the options; on the way notes are written beside
the output, and nothing else changes.  A task that works on the store alone is followed here
from the words of the command line to the engine that it works with.
-/

namespace NetworkIsolation.CommandLine

open NetworkIsolation.Backend NetworkIsolation.Configuration NetworkIsolation.FileSystem
open NetworkIsolation.Reconcile NetworkIsolation.Store

section

variable {choices : CommonChoices} {task : Task} {host : Host} {layout : Layout}
  {settings : Settings} {words : List String}

/-! ## Settings -/

/-- The settings with the options put over them. -/
def acceptedSettings (host : Host) (choices : CommonChoices) (store : String) :
    Except TaskFailure Settings :=
  storedSettings host choices store >>= fun settings => withModel settings choices.model

theorem run_loadSettings (choices : CommonChoices) (store : String) (host : Host) :
    ∃ errors, (loadSettings choices store).run host =
      (acceptedSettings host choices store, { host with errors }) := by
  rw [loadSettings, acceptedSettings, run_get_bind]
  cases stored : storedSettings host choices store with
  | error failure => exact ⟨host.errors, run_bind_of_error rfl⟩
  | ok settings =>
      rw [run_bind_of_ok (run_liftM_result (.ok settings) host), ok_bind]
      cases accepted : withModel settings choices.model with
      | error failure => exact ⟨host.errors, run_bind_of_error rfl⟩
      | ok changed =>
          rcases record_cases ⟨.commandLine, .debug, "using model " ++ changed.fabric.model⟩ host
            with ⟨errors, recorded⟩
          refine ⟨errors, ?_⟩
          rw [run_bind_of_ok (run_liftM_result (.ok changed) host), ← recorded]
          rfl

theorem isEntryName_settings : IsEntryName "netfence.toml" := by
  refine ⟨⟨?_, ?_, ?_⟩, ?_, ?_⟩ <;> decide

/-- Without a store, a settings file and a model the settings are the usual ones. -/
theorem acceptedSettings_of_absent (no_config : choices.config = none)
    (no_model : choices.model = none) {store : String} (nonempty : store ≠ "")
    (absent : (host.files.find store).toOption = none) :
    acceptedSettings host choices store = .ok {} := by
  have no_file := Files.find_entry_of_absent nonempty isEntryName_settings.no_slash absent
  have usual : host.files.isFile (joinPath store "netfence.toml") = false := by
    rw [Files.isFile, no_file]
    rfl
  rw [acceptedSettings, storedSettings, settingsPath?, no_config, no_model]
  simp only [usual]
  rfl

/-! ## The configuration -/

theorem run_lift_files {α : Type} (action : StateM Files α) (host : Host) :
    Host.filesPart.lift action host =
      ((action host.files).1, { host with files := (action host.files).2 }) := rfl

/-- The configuration in the answers of a store. -/
def storedConfiguration (layout : Layout) (files : Files) : Except EngineError IsolationConfig := do
  let isolation ← (layout.load files isolationKey).mapError .store
  let addons ← (layout.load files addonsKey).mapError .store
  (IsolationConfig.ofAnswers isolation addons).mapError .configuration

theorem valid_isolationKey : validateKey isolationKey = .ok () := by
  decide +kernel

theorem valid_addonsKey : validateKey addonsKey = .ok () := by
  decide +kernel

/-- A store that is not there has the configuration of no answers. -/
theorem storedConfiguration_of_absent {files : Files} (nonempty : layout.root ≠ "")
    (absent : (files.find layout.root).toOption = none) :
    storedConfiguration layout files = .ok ⟨false, [], .none⟩ := by
  rw [storedConfiguration, Layout.load_of_absent_root nonempty absent valid_isolationKey,
    Layout.load_of_absent_root nonempty absent valid_addonsKey]
  rfl

theorem run_loadConfig (host ready : Host) (layout : Layout) (settings : Settings) :
    ∃ errors, (engineOn ready layout settings).loadConfig host =
      (storedConfiguration layout host.files, { host with errors }) := by
  have loads : ∀ key, (engineOn ready layout settings).loadBucket key host =
      ((layout.load host.files key).mapError .store, host) := fun key => rfl
  simp only [Engine.loadConfig, storedConfiguration, run_bind, loads]
  cases layout.load host.files isolationKey with
  | error cause => exact ⟨host.errors, rfl⟩
  | ok isolation =>
      simp only [mapError_ok, ok_bind, run_bind, loads]
      cases layout.load host.files addonsKey with
      | error cause => exact ⟨host.errors, rfl⟩
      | ok addons =>
          simp only [mapError_ok, ok_bind]
          cases IsolationConfig.ofAnswers isolation addons with
          | error cause => exact ⟨host.errors, rfl⟩
          | ok config =>
              rcases record_cases ⟨.engine, .debug, "loaded isolation config: enabled=" ++
                toString config.enabled ++ " spaces=" ++ toString config.spaces.length⟩ host
                with ⟨errors, recorded⟩
              refine ⟨errors, ?_⟩
              rw [← recorded]
              rfl

/-! ## From words to an engine -/

/-- The store that the options name. -/
def chosenStore (host : Host) (choices : CommonChoices) : Layout :=
  ⟨expandHome host choices.store⟩

/-- The host on which a task is run, with what was written beside the output so far. -/
def readied (host : Host) (choices : CommonChoices) (errors : String) : Host :=
  { host with filter := chosenFilter host choices, errors }

/-- The exit status of what a task has come to, and the host after it. -/
def finished (done : Except TaskFailure Bool × Host) : Nat × Host :=
  finish done.1 done.2

theorem run_of_parsed (parsed : Request.parse words = .ok (.run choices task)) (host : Host) :
    run words host = finished ((runTask choices task).run (readied host choices host.errors)) := by
  rw [run, parsed]
  rfl

theorem run_requireTools (no_tools : task.needsTools = false) (settings : Settings) (host : Host) :
    (requireTools task settings).run host = (.ok (), host) := by
  rw [requireTools, run_get_bind, no_tools]
  rfl

theorem run_loadSettings_readied (host : Host) (choices : CommonChoices) :
    ∃ errors, (loadSettings choices (chosenStore host choices).root).run
        (readied host choices host.errors) =
      (acceptedSettings host choices (chosenStore host choices).root,
        readied host choices errors) :=
  run_loadSettings choices (chosenStore host choices).root (readied host choices host.errors)

/-- With settings a task is run on the store, if it can do without the tools. -/
theorem run_of_accepted (parsed : Request.parse words = .ok (.run choices task))
    (on_store : runTask choices task = runOnStore choices task)
    (no_tools : task.needsTools = false)
    (accepted : acceptedSettings host choices (chosenStore host choices).root = .ok settings) :
    ∃ errors, run words host =
      finished ((runOnEngine choices (engineOn host (chosenStore host choices) settings)
        (chosenStore host choices) task).run (readied host choices errors)) := by
  rcases run_loadSettings_readied host choices with ⟨errors, loads⟩
  rw [accepted] at loads
  refine ⟨errors, ?_⟩
  rw [run_of_parsed parsed, on_store, runOnStore, run_get_bind]
  change finished (ExceptT.run (loadSettings choices (chosenStore host choices).root >>= _) _) = _
  rw [run_bind_of_ok loads, run_bind_of_ok (run_requireTools no_tools settings _), run_get_bind]
  rfl

/-- Without settings a task fails and says so, and nothing else happens. -/
theorem run_of_refused {failure : TaskFailure}
    (parsed : Request.parse words = .ok (.run choices task))
    (on_store : runTask choices task = runOnStore choices task)
    (refused : acceptedSettings host choices (chosenStore host choices).root = .error failure) :
    ∃ errors, run words host = (failure.exitStatus, readied host choices errors) := by
  rcases run_loadSettings_readied host choices with ⟨errors, fails⟩
  rw [refused] at fails
  refine ⟨errors ++ ("error: " ++ failure.message) ++ "\n", ?_⟩
  rw [run_of_parsed parsed, on_store, runOnStore, run_get_bind]
  change finished (ExceptT.run (loadSettings choices (chosenStore host choices).root >>= _) _) = _
  rw [run_bind_of_error fails]
  rfl

/-! ## Showing the configuration -/

theorem run_ofEngine {α : Type} (action : StateM Host (Except EngineError α)) (host : Host) :
    (ofEngine action).run host = ((action host).1.mapError .engine, (action host).2) := by
  rw [ofEngine, run_bind_of_ok (run_liftM_action action host)]
  cases (action host).1 <;> rfl

/-- A task loads the configuration of its store. -/
theorem run_loadConfig_readied (host : Host) (choices : CommonChoices) (settings : Settings)
    (noted : String) :
    ∃ errors, (ofEngine (engineOn host (chosenStore host choices) settings).loadConfig).run
        (readied host choices noted) =
      ((storedConfiguration (chosenStore host choices) host.files).mapError .engine,
        readied host choices errors) := by
  rcases run_loadConfig (readied host choices noted) host (chosenStore host choices) settings with
    ⟨errors, loaded⟩
  refine ⟨errors, ?_⟩
  rw [run_ofEngine, loaded]
  rfl

/-- The configuration that is shown with the settings and answers that a host has. -/
def shownConfiguration (host : Host) (choices : CommonChoices) :
    Except TaskFailure IsolationConfig := do
  let _ ← acceptedSettings host choices (chosenStore host choices).root
  (storedConfiguration (chosenStore host choices) host.files).mapError .engine

/-- Showing the configuration ends well exactly if there is one to show. -/
theorem status_of_show (parsed : Request.parse words = .ok (.run choices .showConfiguration))
    (host : Host) :
    (run words host).1 = match shownConfiguration host choices with
      | .ok _ => 0
      | .error failure => failure.exitStatus := by
  rw [shownConfiguration]
  cases accepted : acceptedSettings host choices (chosenStore host choices).root with
  | error failure =>
      rcases run_of_refused parsed rfl accepted with ⟨errors, ran⟩
      rw [ran]
      rfl
  | ok settings =>
      rcases run_of_accepted parsed rfl rfl accepted with ⟨noted, ran⟩
      rcases run_loadConfig_readied host choices settings noted with ⟨errors, loads⟩
      rw [ran, ok_bind]
      change (finished (ExceptT.run (showTask _ choices.json) _)).1 = _
      rw [showTask]
      cases stored : storedConfiguration (chosenStore host choices) host.files with
      | error cause =>
          rw [stored] at loads
          rw [run_bind_of_error loads]
          rfl
      | ok config =>
          rw [stored] at loads
          rw [run_bind_of_ok loads]
          cases choices.json <;> rfl

end

end NetworkIsolation.CommandLine
