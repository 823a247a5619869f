import NetworkIsolation.Backend.Prerequisites
import NetworkIsolation.CommandLine.Terminal
import NetworkIsolation.Store.Integrity

/-!
# Diagnosis

Checks of the tools, the store and the stored configuration.  Each check passes,
fails, or just informs.  Beside the list of checks the diagnosis keeps whether everything
was in order so far.
-/

namespace NetworkIsolation.CommandLine

open NetworkIsolation.Backend NetworkIsolation.Configuration NetworkIsolation.FileSystem
open NetworkIsolation.Json NetworkIsolation.Reconcile NetworkIsolation.Store

/-- What a check came to. -/
inductive Verdict where
  | pass
  | fail
  | info
  deriving DecidableEq, Repr

/-- The word for a verdict. -/
def Verdict.word : Verdict → String
  | .pass => "pass"
  | .fail => "fail"
  | .info => "info"

/-- The sign for a verdict. -/
def Verdict.sign : Verdict → String
  | .pass => "✓"
  | .fail => "✗"
  | .info => "ℹ"

/-- A check with what it came to. -/
structure Check where
  name : String
  verdict : Verdict
  message : String
  deriving DecidableEq, Repr

/-- A check as an object. -/
def Check.toValue (check : Check) : Value :=
  .object [
    ("name", .string check.name),
    ("status", .string check.verdict.word),
    ("message", .string check.message)]

/-- The checks that were made, and whether everything was in order. -/
structure Diagnosis where
  checks : List Check := []
  healthy : Bool := true
  deriving DecidableEq, Repr

namespace Diagnosis

/-- Put a check behind the others. -/
def add (diagnosis : Diagnosis) (check : Check) : Diagnosis :=
  { diagnosis with checks := diagnosis.checks ++ [check] }

/-- Remember that something is not in order. -/
def spoil (diagnosis : Diagnosis) : Diagnosis :=
  { diagnosis with healthy := false }

end Diagnosis

/-- The tools that are needed and not found on a host. -/
def missingOn (host : Host) (settings : Settings) : List MissingTool :=
  missingTools (toolFound host.files.isFile host.which) settings.fabric.program
    settings.loadBalancer.program

/-- Check the tools. -/
def checkTools (host : Host) (settings : Settings) (diagnosis : Diagnosis) : Diagnosis :=
  let missing := missingOn host settings
  if missing.isEmpty then diagnosis.add ⟨"prereqs", .pass, "juju and kubectl found"⟩
  else diagnosis.spoil.add
    ⟨"prereqs", .fail, "Missing prerequisites: " ++ missingMessage missing⟩

/-- Check the credentials, if there are to be any. -/
def checkCredentials (host : Host) (settings : Settings) (diagnosis : Diagnosis) : Diagnosis :=
  match settings.loadBalancer.kubeconfig with
  | none => diagnosis
  | some path =>
    if host.files.isFile path then
      diagnosis.add ⟨"kubeconfig", .pass, "kubeconfig " ++ path ++ " exists"⟩
    else
      diagnosis.spoil.add ⟨"kubeconfig", .fail, "kubeconfig " ++ path ++ " not found"⟩

/-- Check the version marker of a store. -/
def checkVersion (layout : Layout) (files : Files) (diagnosis : Diagnosis) : Diagnosis :=
  match layout.verifyVersion files with
  | .ok () => diagnosis.add ⟨"store_version", .pass, "Store format version valid"⟩
  | .error error =>
    diagnosis.spoil.add
      ⟨"store_version", .fail, "Store version check failed: " ++ error.message⟩

/-- Check every document of a store. -/
def checkIntegrity (layout : Layout) (files : Files) (diagnosis : Diagnosis) : Diagnosis :=
  match verifyIntegrity layout files with
  | .error error =>
    diagnosis.spoil.add ⟨"store_integrity", .fail, "Integrity check failed: " ++ error.message⟩
  | .ok report =>
    if report.failed.isEmpty then
      diagnosis.add ⟨"store_integrity", .pass,
        "Answer integrity OK (" ++ toString report.checked ++ " buckets checked)"⟩
    else
      let details := report.failed.map fun (key, fault) => key ++ ": " ++ fault.message
      diagnosis.spoil.add ⟨"store_integrity", .fail,
        toString report.failed.length ++ " of " ++ toString report.checked ++
          " buckets corrupted (" ++ "; ".intercalate details ++ ")"⟩

/-- Check every document, and make a note of files that do not belong there. -/
def checkDocuments (layout : Layout) (diagnosis : Diagnosis) : StateM Host Diagnosis := do
  let host ← get
  (layout.strayFiles host.files).forM fun name =>
    note .answers .warn ("ignoring unexpected file in answer store: '" ++ name ++ "'")
  return checkIntegrity layout host.files diagnosis

/-- Check that the lock can be taken. -/
def checkLock (layout : Layout) (diagnosis : Diagnosis) : StateM Host Diagnosis := do
  match ← Host.filesPart.lift layout.openLock.run with
  | .ok () => return diagnosis.add ⟨"store_lock", .pass, "Store lock is free"⟩
  | .error error =>
    return diagnosis.spoil.add
      ⟨"store_lock", .fail, "Cannot check store lock: " ++ error.message⟩

/-- Check a store, if it is there. -/
def checkStore (layout : Layout) (diagnosis : Diagnosis) : StateM Host Diagnosis := do
  let host ← get
  if layout.isInitialized host.files then
    let diagnosis := diagnosis.add ⟨"store_exists", .pass, "Answer store exists"⟩
    let diagnosis := checkVersion layout host.files diagnosis
    let diagnosis ← checkDocuments layout diagnosis
    checkLock layout diagnosis
  else
    return diagnosis.add ⟨"store_exists", .info,
      "Answer store not initialized (will be created on first import)"⟩

/-- What is said about a configuration. -/
def describeConfiguration (config : IsolationConfig) : String :=
  "Isolation " ++ (if config.enabled then "enabled" else "disabled") ++ ": " ++
    toString config.spaces.length ++ " spaces, pools " ++
    (if config.resolvedRanges.isEmpty then "not configured" else "configured")

/-- Check the stored configuration. -/
def checkConfiguration (engine : Engine Host) (diagnosis : Diagnosis) :
    StateM Host Diagnosis := do
  match ← engine.loadConfig with
  | .ok config => return diagnosis.add ⟨"isolation", .info, describeConfiguration config⟩
  | .error error =>
    return diagnosis.spoil.add
      ⟨"isolation", .fail, "Stored answers are invalid: " ++ error.message⟩

/-- All checks in order. -/
def diagnose (engine : Engine Host) (layout : Layout) : StateM Host Diagnosis := do
  let host ← get
  let diagnosis := checkTools host engine.settings {}
  let diagnosis := checkCredentials host engine.settings diagnosis
  let diagnosis ← checkStore layout diagnosis
  checkConfiguration engine diagnosis

/-- A diagnosis as an object. -/
def Diagnosis.toValue (diagnosis : Diagnosis) : Value :=
  .object [
    ("healthy", .bool diagnosis.healthy),
    ("checks", .array (diagnosis.checks.map Check.toValue))]

/-- A diagnosis as lines. -/
def Diagnosis.lines (diagnosis : Diagnosis) : List String :=
  ["netfence doctor\n"] ++
  diagnosis.checks.map (fun check => "  " ++ check.verdict.sign ++ " " ++ check.message) ++
  ["", if diagnosis.healthy then "All checks passed."
    else "Some checks failed. See above for details."]

/-- Write a diagnosis. -/
def sayDiagnosis (json : Bool) (diagnosis : Diagnosis) : StateM Host Unit :=
  if json then sayJson diagnosis.toValue
  else Host.sayLines diagnosis.lines

end NetworkIsolation.CommandLine
