import NetworkIsolation.Proofs.CommandLine.Loading
import NetworkIsolation.Proofs.CommandLine.Tools
import NetworkIsolation.Proofs.Store.Atomicity
import NetworkIsolation.Proofs.Store.Listing

/-!
# What a diagnosis says

A diagnosis keeps a flag beside the list of its checks, and every check that fails has to
clear the flag and to be put into the list.  `Examines` says of a stretch of checks that it
does both exactly if something is not in order.  Each function that checks something is one
such stretch, and stretches are put behind each other, so that in the end the flag, the list
and what was asked of the host agree.

The only change that the checks make is that they open the lock file.  They do so in a store
that is there, and nothing beside the lock file is changed by that, so what is loaded after
them is what would have been loaded before.
-/

namespace NetworkIsolation.Store.Layout

open NetworkIsolation.FileSystem

open FileAction (IsAnchored)

variable {layout : Layout} {files : Files}

/-! ## Opening the lock of a store that is there -/

theorem isBase_of_isInitialized (initialized : layout.isInitialized files = true) :
    ∃ location, files.IsBase layout.root location := by
  rcases Files.find_of_exists? initialized with ⟨node, found⟩
  rcases Files.resolve_of_find found with ⟨place, resolved⟩
  exact Files.isBase_of_resolve_entry isEntryName_version.no_slash resolved

theorem isAnchored_of_isInitialized (initialized : layout.isInitialized files = true) :
    IsAnchored files layout.root := by
  rcases isBase_of_isInitialized initialized with ⟨location, ⟨nowhere, -⟩ | leads_to⟩
  · right
    rw [nowhere]
    decide
  · rcases leads_to.hasEntries with ⟨entries, has_entries⟩
    exact .inl (exists?_of_find (leads_to.find has_entries))

/-- What stands beside the lock file is the same when it was opened. -/
theorem find_sibling_of_openLock (initialized : layout.isInitialized files = true)
    {other : String} (is_other : IsEntryName other) (different : ".lock" ≠ other) :
    ((layout.openLock.run files).2.find (joinPath layout.root other)).toOption =
      (files.find (joinPath layout.root other)).toOption := by
  rcases isBase_of_isInitialized initialized with ⟨location, is_base⟩
  have is_made := FileAction.isMade_around is_base isEntryName_lock.own isEntryName_lock.no_slash
  rw [openLock, lockFile,
    run_bind_of_ok (run_onFiles (FileAction.createDirectories_of_isMade is_made)),
    run_onFiles_whole]
  cases opened : files.openFile (joinPath layout.root ".lock") with
  | error cause => rfl
  | ok made => exact Files.find_sibling_of_openFile isEntryName_lock is_other different opened

/-- The files after a diagnosis: in a store that is there, the lock file was opened. -/
def examinedFiles (layout : Layout) (files : Files) : Files :=
  if layout.isInitialized files then (layout.openLock.run files).2 else files

theorem differsAt_examinedFiles (layout : Layout) (files : Files) :
    Files.DiffersAt [layout.lockFile] [] files (layout.examinedFiles files) := by
  rw [examinedFiles]
  split
  · exact layout.actsAt_openLock files
  · exact .refl _ _ files

theorem load_examinedFiles (layout : Layout) (files : Files) (key : String) :
    layout.load (layout.examinedFiles files) key = layout.load files key := by
  rw [examinedFiles]
  split
  · rename_i initialized
    exact load_congr_shelf (shelf_of_openLock (isAnchored_of_isInitialized initialized)) key
  · rfl

end NetworkIsolation.Store.Layout

namespace NetworkIsolation.CommandLine

open NetworkIsolation.Backend NetworkIsolation.Configuration NetworkIsolation.FileSystem
open NetworkIsolation.Reconcile NetworkIsolation.Store

theorem Verdict.word_eq_fail_iff (verdict : Verdict) : verdict.word = "fail" ↔ verdict = .fail := by
  cases verdict <;> decide

theorem Verdict.sign_eq_cross_iff (verdict : Verdict) : verdict.sign = "✗" ↔ verdict = .fail := by
  cases verdict <;> decide

/-! ## Stretches of checks -/

namespace Diagnosis

/-- Whether no check in the list has failed. -/
def HasNoFailure (diagnosis : Diagnosis) : Prop :=
  ∀ check ∈ diagnosis.checks, check.verdict ≠ .fail

/-- Whether a stretch of checks clears the flag and adds a failure unless something holds. -/
structure Examines (sound : Prop) (before after : Diagnosis) : Prop where
  flag : after.healthy = true ↔ before.healthy = true ∧ sound
  failures : after.HasNoFailure ↔ before.HasNoFailure ∧ sound

variable {first second sound : Prop} {before between after diagnosis : Diagnosis} {check : Check}

theorem hasNoFailure_add :
    (diagnosis.add check).HasNoFailure ↔ diagnosis.HasNoFailure ∧ check.verdict ≠ .fail := by
  simp [HasNoFailure, add, or_imp, forall_and]

theorem Examines.refl (holds : sound) (diagnosis : Diagnosis) :
    Examines sound diagnosis diagnosis where
  flag := by simp [holds]
  failures := by simp [holds]

theorem Examines.trans (front : Examines first before between)
    (back : Examines second between after) : Examines (first ∧ second) before after where
  flag := by rw [back.flag, front.flag, and_assoc]
  failures := by rw [back.failures, front.failures, and_assoc]

theorem Examines.congr (examines : Examines first before after) (same : first ↔ second) :
    Examines second before after where
  flag := by rw [examines.flag, same]
  failures := by rw [examines.failures, same]

theorem examines_add (holds : sound) (no_failure : check.verdict ≠ .fail)
    (diagnosis : Diagnosis) : Examines sound diagnosis (diagnosis.add check) where
  flag := by simp [add, holds]
  failures := by simp [hasNoFailure_add, holds, no_failure]

theorem examines_spoil_add (fails : ¬ sound) (failure : check.verdict = .fail)
    (diagnosis : Diagnosis) : Examines sound diagnosis (diagnosis.spoil.add check) where
  flag := by simp [add, spoil, fails]
  failures := by simp [hasNoFailure_add, fails, failure]

/-- From nothing on, the flag and the list say the same. -/
theorem Examines.flag_iff (examines : Examines sound {} diagnosis) :
    diagnosis.healthy = true ↔ diagnosis.HasNoFailure := by
  rw [examines.flag, examines.failures]
  simp [HasNoFailure]

end Diagnosis

open Diagnosis

/-! ## What is asked of a host -/

/-- What is asked of a store with a version marker. -/
structure IsSoundStore (layout : Layout) (files : Files) : Prop where
  marked : ∃ text, files.readText layout.versionFile = .ok text ∧
    versionRecord.reader.decode text = .ok formatVersion
  listed : files.exists? layout.answersDirectory = true →
    ∃ entries, files.listDirectory layout.answersDirectory = .ok entries
  loaded : ∀ keys, layout.keys files = .ok keys →
    ∀ key ∈ keys, ∃ answers, layout.load files key = .ok answers
  lockable : ∃ opened, layout.openLock.run files = (.ok (), opened)

/-- What is asked of a host, `found` being what it takes to find a tool. -/
structure IsSound (found : String → Prop) (host : Host) (layout : Layout)
    (settings : Settings) : Prop where
  tools : ∀ name ∈ [settings.fabric.program, settings.loadBalancer.program], found name
  credentials : ∀ path, settings.loadBalancer.kubeconfig = some path →
    host.files.isFile path = true
  configured : ∃ config after,
    (engineOn host layout settings).loadConfig host = (.ok config, after)
  store : layout.isInitialized host.files = true → IsSoundStore layout host.files

section

variable {layout : Layout} {files : Files} {host : Host} {settings : Settings}

/-! ## Each check -/

theorem missingOn_eq_nil_iff : missingOn host settings = [] ↔
    ∀ name ∈ [settings.fabric.program, settings.loadBalancer.program], FindsTool host name := by
  simp [missingOn, missingTools, requiredTools, List.filter_eq_nil_iff, toolFound_iff]

theorem examines_checkTools (host : Host) (settings : Settings) (diagnosis : Diagnosis) :
    Examines
      (∀ name ∈ [settings.fabric.program, settings.loadBalancer.program], FindsTool host name)
      diagnosis (checkTools host settings diagnosis) := by
  refine Examines.congr ?_ missingOn_eq_nil_iff
  rw [checkTools]
  split
  · rename_i nothing
    exact examines_add (List.isEmpty_iff.mp nothing) (by simp) diagnosis
  · rename_i something
    exact examines_spoil_add (fun nothing => something (List.isEmpty_iff.mpr nothing)) rfl diagnosis

theorem examines_checkCredentials (host : Host) (settings : Settings) (diagnosis : Diagnosis) :
    Examines (∀ path, settings.loadBalancer.kubeconfig = some path →
        host.files.isFile path = true)
      diagnosis (checkCredentials host settings diagnosis) := by
  rw [checkCredentials]
  cases settings.loadBalancer.kubeconfig with
  | none => exact .refl (by simp) diagnosis
  | some path =>
      simp only [Option.some.injEq, forall_eq']
      split
      · exact examines_add ‹_› (by simp) diagnosis
      · exact examines_spoil_add ‹_› rfl diagnosis

theorem verifyVersion_eq_ok_iff : layout.verifyVersion files = .ok () ↔
    ∃ text, files.readText layout.versionFile = .ok text ∧
      versionRecord.reader.decode text = .ok formatVersion := by
  rw [Layout.verifyVersion, bind_eq_ok]
  simp only [mapError_eq_ok, bind_eq_ok]
  refine exists_congr fun text => and_congr_right fun _ => ?_
  constructor
  · rintro ⟨version, decoded, accepted⟩
    split at accepted
    · rename_i same
      rwa [← same]
    · cases accepted
  · intro decoded
    exact ⟨formatVersion, decoded, if_pos rfl⟩

theorem examines_checkVersion (layout : Layout) (files : Files) (diagnosis : Diagnosis) :
    Examines (∃ text, files.readText layout.versionFile = .ok text ∧
        versionRecord.reader.decode text = .ok formatVersion)
      diagnosis (checkVersion layout files diagnosis) := by
  refine Examines.congr ?_ verifyVersion_eq_ok_iff
  rw [checkVersion]
  split
  · exact examines_add ‹_› (by simp) diagnosis
  · rename_i failed
    refine examines_spoil_add ?_ rfl diagnosis
    simp [failed]

/-- The keys are listed exactly if the directory of the documents is, or is not there. -/
theorem exists_keys_iff : (∃ keys, layout.keys files = .ok keys) ↔
    (files.exists? layout.answersDirectory = true →
      ∃ entries, files.listDirectory layout.answersDirectory = .ok entries) := by
  simp only [Layout.keys, Layout.visibleFiles]
  split
  · rename_i there
    simp only [there, forall_const]
    cases files.listDirectory layout.answersDirectory with
    | error cause =>
        constructor
        · rintro ⟨keys, impossible⟩
          cases impossible
        · rintro ⟨entries, impossible⟩
          cases impossible
    | ok entries => exact ⟨fun _ => ⟨entries, rfl⟩, fun _ => ⟨_, rfl⟩⟩
  · rename_i absent
    exact ⟨fun _ there => absurd there absent, fun _ => ⟨_, rfl⟩⟩

theorem faultsOf_eq_nil_iff {keys : List String} : layout.faultsOf files keys = [] ↔
    ∀ key ∈ keys, ∃ answers, layout.load files key = .ok answers := by
  rw [Layout.faultsOf, List.filterMap_eq_nil_iff]
  refine forall₂_congr fun key _ => ?_
  rw [Option.map_eq_none_iff, ← Option.not_isSome_iff_eq_none, Layout.isSome_integrityFault?]
  cases layout.load files key <;> simp

theorem examines_checkIntegrity (layout : Layout) (files : Files) (diagnosis : Diagnosis) :
    Examines ((files.exists? layout.answersDirectory = true →
          ∃ entries, files.listDirectory layout.answersDirectory = .ok entries) ∧
        ∀ keys, layout.keys files = .ok keys →
          ∀ key ∈ keys, ∃ answers, layout.load files key = .ok answers)
      diagnosis (checkIntegrity layout files diagnosis) := by
  rw [← exists_keys_iff, checkIntegrity, verifyIntegrity]
  cases layout.keys files with
  | error cause =>
      refine examines_spoil_add ?_ rfl diagnosis
      rintro ⟨⟨keys, impossible⟩, -⟩
      cases impossible
  | ok keys =>
      have sound_iff :
          ((∃ listed, (Except.ok keys : Except StoreError (List String)) = .ok listed) ∧
          ∀ listed, (Except.ok keys : Except StoreError (List String)) = .ok listed →
            ∀ key ∈ listed, ∃ answers, layout.load files key = .ok answers) ↔
          layout.faultsOf files keys = [] := by
        simp [faultsOf_eq_nil_iff]
      rw [sound_iff]
      change Examines _ _ (if (layout.faultsOf files keys).isEmpty = true then _ else _)
      split
      · rename_i nothing
        exact examines_add (List.isEmpty_iff.mp nothing) (by simp) diagnosis
      · rename_i something
        exact examines_spoil_add (fun nothing => something (List.isEmpty_iff.mpr nothing)) rfl
          diagnosis

/-! ## The store -/

/-- Notes are written beside the output. -/
theorem run_notes {ι : Type} (component : Component) (level : Level) (message : ι → String)
    (items : List ι) (host : Host) :
    ∃ errors, (items.forM fun item => note component level (message item)) host =
      ((), { host with errors }) := by
  induction items generalizing host with
  | nil => exact ⟨host.errors, rfl⟩
  | cons item items induction_hypothesis =>
      rcases record_cases ⟨component, level, message item⟩ host with ⟨errors, recorded⟩
      rcases induction_hypothesis { host with errors } with ⟨final, noted⟩
      refine ⟨final, ?_⟩
      rw [List.forM_eq_forM, List.forM_cons, run_bind, run_note, recorded]
      exact noted

theorem run_checkDocuments (layout : Layout) (diagnosis : Diagnosis) (host : Host) :
    ∃ errors, checkDocuments layout diagnosis host =
      (checkIntegrity layout host.files diagnosis, { host with errors }) := by
  rcases run_notes .answers .warn
    (fun name => "ignoring unexpected file in answer store: '" ++ name ++ "'")
    (layout.strayFiles host.files) host with ⟨errors, noted⟩
  refine ⟨errors, ?_⟩
  rw [checkDocuments, run_bind, run_get, run_bind, noted]
  rfl

theorem run_checkLock (layout : Layout) (diagnosis : Diagnosis) (host : Host) :
    ∃ after, checkLock layout diagnosis host =
        (after, { host with files := (layout.openLock.run host.files).2 }) ∧
      Examines (∃ opened, layout.openLock.run host.files = (.ok (), opened)) diagnosis after := by
  rw [checkLock, run_bind, run_lift_files]
  rcases layout.openLock.run host.files with ⟨result, opened⟩
  cases result with
  | ok done => exact ⟨_, rfl, examines_add ⟨opened, rfl⟩ (by simp) diagnosis⟩
  | error cause =>
      refine ⟨_, rfl, examines_spoil_add ?_ rfl diagnosis⟩
      rintro ⟨_, impossible⟩
      cases impossible

/-- A store is examined if it is there. -/
theorem run_checkStore (layout : Layout) (diagnosis : Diagnosis) (host : Host) :
    ∃ errors after, checkStore layout diagnosis host =
        (after, { host with files := layout.examinedFiles host.files, errors }) ∧
      Examines (layout.isInitialized host.files = true → IsSoundStore layout host.files)
        diagnosis after := by
  rw [checkStore, run_bind, run_get, run_ite, Layout.examinedFiles]
  split
  · rename_i initialized
    simp only [run_bind]
    generalize begun : diagnosis.add ⟨"store_exists", .pass, "Answer store exists"⟩ = first
    rcases run_checkDocuments layout (checkVersion layout host.files first) host with
      ⟨errors, documents⟩
    rcases run_checkLock layout (checkIntegrity layout host.files
      (checkVersion layout host.files first)) { host with errors } with ⟨after, locked, lock⟩
    refine ⟨errors, after, ?_, ?_⟩
    · rw [documents]
      exact locked
    have exists_check : Examines True diagnosis first := by
      rw [← begun]
      exact examines_add trivial (by simp) diagnosis
    have stretch := exists_check.trans ((examines_checkVersion layout host.files first).trans
      ((examines_checkIntegrity layout host.files _).trans lock))
    refine stretch.congr ?_
    constructor
    · rintro ⟨-, marked, ⟨listed, loaded⟩, lockable⟩ -
      exact ⟨marked, listed, loaded, lockable⟩
    · intro asked
      have sound := asked initialized
      exact ⟨trivial, sound.marked, ⟨sound.listed, sound.loaded⟩, sound.lockable⟩
  · rename_i uninitialized
    exact ⟨host.errors, _, rfl,
      examines_add (fun initialized => absurd initialized uninitialized) (by simp) diagnosis⟩

/-! ## The configuration -/

theorem storedConfiguration_examinedFiles (layout : Layout) (files : Files) :
    storedConfiguration layout (layout.examinedFiles files) = storedConfiguration layout files := by
  rw [storedConfiguration, storedConfiguration, layout.load_examinedFiles,
    layout.load_examinedFiles]

theorem run_checkConfiguration (ready : Host) (layout : Layout) (settings : Settings)
    (diagnosis : Diagnosis) (host : Host) :
    ∃ errors after, checkConfiguration (engineOn ready layout settings) diagnosis host =
        (after, { host with errors }) ∧
      Examines (∃ config, storedConfiguration layout host.files = .ok config) diagnosis after := by
  rcases run_loadConfig host ready layout settings with ⟨errors, loaded⟩
  rw [checkConfiguration, run_bind, loaded]
  cases storedConfiguration layout host.files with
  | ok config => exact ⟨errors, _, rfl, examines_add ⟨config, rfl⟩ (by simp) diagnosis⟩
  | error cause => exact ⟨errors, _, rfl, examines_spoil_add (by simp) rfl diagnosis⟩

theorem exists_loadConfig_iff (host : Host) (layout : Layout) (settings : Settings) :
    (∃ config after, (engineOn host layout settings).loadConfig host = (.ok config, after)) ↔
      ∃ config, storedConfiguration layout host.files = .ok config := by
  rcases run_loadConfig host host layout settings with ⟨errors, loaded⟩
  rw [loaded]
  constructor
  · rintro ⟨config, after, same⟩
    exact ⟨config, congrArg Prod.fst same⟩
  · rintro ⟨config, same⟩
    exact ⟨config, _, by rw [same]⟩

/-! ## All checks -/

/-- What all checks together ask of a host. -/
theorem run_diagnose (ready host : Host) (layout : Layout) (settings : Settings) :
    ∃ errors after, diagnose (engineOn ready layout settings) layout host =
        (after, { host with files := layout.examinedFiles host.files, errors }) ∧
      Examines (IsSound (FindsTool host) host layout settings) {} after := by
  have tools := (examines_checkTools host settings {}).trans
    (examines_checkCredentials host settings _)
  rcases run_checkStore layout (checkCredentials host settings (checkTools host settings {})) host
    with ⟨noted, between, stored, store⟩
  rcases run_checkConfiguration ready layout settings between
    { host with files := layout.examinedFiles host.files, errors := noted } with
    ⟨errors, after, configured, configuration⟩
  refine ⟨errors, after, ?_, ?_⟩
  · have same_settings : (engineOn ready layout settings).settings = settings := rfl
    simp only [diagnose, run_bind, run_get, same_settings, stored]
    exact configured
  · refine ((tools.trans store).trans configuration).congr ?_
    rw [storedConfiguration_examinedFiles, ← exists_loadConfig_iff host layout settings]
    constructor
    · rintro ⟨⟨⟨tools, credentials⟩, store⟩, configured⟩
      exact ⟨tools, credentials, configured, store⟩
    · rintro ⟨tools, credentials, configured, store⟩
      exact ⟨⟨⟨tools, credentials⟩, store⟩, configured⟩

/-! ## The report -/

/-- Lines with a line break behind each of them. -/
def linesText : List String → String
  | [] => ""
  | line :: lines => line ++ "\n" ++ linesText lines

theorem run_sayLines (lines : List String) (host : Host) :
    Host.sayLines lines host = ((), { host with output := host.output ++ linesText lines }) := by
  induction lines generalizing host with
  | nil =>
      rw [linesText, String.append_empty]
      rfl
  | cons line lines induction_hypothesis =>
      have rest := induction_hypothesis { host with output := host.output ++ line ++ "\n" }
      rw [linesText, ← String.append_assoc, ← String.append_assoc]
      exact rest

/-- The object that is printed of a diagnosis: the flag and the list of checks. -/
def Diagnosis.report (diagnosis : Diagnosis) : Json.Value :=
  .object [
    ("healthy", .bool diagnosis.healthy),
    ("checks", .array (diagnosis.checks.map fun check => .object [
      ("name", .string check.name),
      ("status", .string check.verdict.word),
      ("message", .string check.message)]))]

/-- The lines that are printed of a diagnosis: one for each check, and the flag in words. -/
def Diagnosis.reportLines (diagnosis : Diagnosis) : List String :=
  "netfence doctor\n" ::
    (diagnosis.checks.map fun check => "  " ++ check.verdict.sign ++ " " ++ check.message) ++
    ["", if diagnosis.healthy = true then "All checks passed."
      else "Some checks failed. See above for details."]

/-- What is printed of a diagnosis. -/
def Diagnosis.text (json : Bool) (diagnosis : Diagnosis) : String :=
  if json then diagnosis.report.pretty ++ "\n" else linesText diagnosis.reportLines

theorem run_sayDiagnosis (json : Bool) (diagnosis : Diagnosis) (host : Host) :
    sayDiagnosis json diagnosis host =
      ((), { host with output := host.output ++ diagnosis.text json }) := by
  rw [sayDiagnosis, Diagnosis.text]
  cases json with
  | true =>
      rw [if_pos rfl, if_pos rfl, ← String.append_assoc]
      rfl
  | false => exact run_sayLines diagnosis.lines host

/-- The task prints its diagnosis and gives the flag. -/
theorem run_doctorTask (ready host : Host) (layout : Layout) (settings : Settings) (json : Bool) :
    ∃ diagnosis after, (doctorTask (engineOn ready layout settings) layout json).run host =
        (.ok diagnosis.healthy, after) ∧
      after.files = layout.examinedFiles host.files ∧ after.environment = host.environment ∧
      after.output = host.output ++ diagnosis.text json ∧
      Examines (IsSound (FindsTool host) host layout settings) {} diagnosis := by
  rcases run_diagnose ready host layout settings with ⟨errors, diagnosis, diagnosed, examines⟩
  refine ⟨diagnosis, { host with
    files := layout.examinedFiles host.files, errors
    output := host.output ++ diagnosis.text json }, ?_, rfl, rfl, rfl, examines⟩
  rw [doctorTask, run_bind_of_ok (run_liftM_action _ host), diagnosed,
    run_bind_of_ok (run_liftM_action _ _), run_sayDiagnosis]
  rfl

/-! ## Settings after a diagnosis -/

/-- Settings that were read are read again if no file was replaced and none takes their place. -/
theorem acceptedSettings_of_differsAt {choices : CommonChoices} {after : Host}
    {made : List String} {store : String}
    (differs : Files.DiffersAt made [] host.files after.files)
    (same_usual : (after.files.find (joinPath store "netfence.toml")).toOption =
      (host.files.find (joinPath store "netfence.toml")).toOption)
    (accepted : acceptedSettings host choices store = .ok settings) :
    acceptedSettings after choices store = .ok settings := by
  have same_path : settingsPath? after choices store = settingsPath? host choices store := by
    rw [settingsPath?, settingsPath?, Files.isFile, Files.isFile, same_usual]
  rcases bind_eq_ok.mp accepted with ⟨stored, read, changed⟩
  refine bind_eq_ok.mpr ⟨stored, ?_, changed⟩
  rw [storedSettings] at read
  rw [storedSettings, same_path]
  cases chosen : settingsPath? host choices store with
  | none =>
      rw [chosen] at read
      exact read
  | some path =>
      rw [chosen] at read
      have parsed := mapError_eq_ok.mp read
      rw [settingsOf] at parsed
      split at parsed
      · rename_i text is_text
        rcases bind_eq_ok.mp is_text with ⟨node, found, as_text⟩
        cases node with
        | directory entries => cases as_text
        | file content =>
            rcases Files.resolve_of_find found with ⟨place, resolved⟩
            have still := differs.find_file resolved (by simp)
            have same_text : after.files.readText path = host.files.readText path := by
              rw [Files.readText, Files.readText, still, found]
            simp only [settingsOf, same_text, is_text]
            exact mapError_eq_ok.mpr parsed
      · cases parsed

theorem acceptedSettings_examinedFiles {choices : CommonChoices} {after : Host}
    (examined : after.files = layout.examinedFiles host.files)
    (accepted : acceptedSettings host choices layout.root = .ok settings) :
    acceptedSettings after choices layout.root = .ok settings := by
  have differs := layout.differsAt_examinedFiles host.files
  rw [← examined] at differs
  refine acceptedSettings_of_differsAt differs ?_ accepted
  rw [examined, Layout.examinedFiles]
  split
  · rename_i initialized
    exact Layout.find_sibling_of_openLock initialized isEntryName_settings (by decide)
  · rfl

/-! ## The status -/

theorem isSound_readied (choices : CommonChoices) (errors : String) :
    IsSound (FindsTool (readied host choices errors)) (readied host choices errors) layout
        settings ↔
      IsSound (FindsTool host) host layout settings := by
  have same_configured := (exists_loadConfig_iff (readied host choices errors) layout
    settings).trans (exists_loadConfig_iff host layout settings).symm
  constructor
  · rintro ⟨tools, credentials, configured, store⟩
    exact ⟨tools, credentials, same_configured.mp configured, store⟩
  · rintro ⟨tools, credentials, configured, store⟩
    exact ⟨tools, credentials, same_configured.mpr configured, store⟩

/-- What is asked does not depend on how tools are found, as long as the same ones are. -/
theorem isSound_congr {found found' : String → Prop} (same : ∀ name, found name ↔ found' name) :
    IsSound found host layout settings ↔ IsSound found' host layout settings := by
  have same_predicate : found = found' := funext fun name => propext (same name)
  rw [same_predicate]

/--
What a diagnosis has to do with the host that it is made of.  The status is that of the answers
which `which` gives, and that of the search path if these answers are right.  A configuration
that passes can be shown before the diagnosis and after it.
-/
structure DiagnosesExactly (words : List String) (choices : CommonChoices) (settings : Settings)
    (host : Host) (diagnosis : Diagnosis) (status : Nat) (after : Host) : Prop where
  ran : run words host = (status, after)
  printed : after.output = host.output ++
    if choices.json then diagnosis.report.pretty ++ "\n" else linesText diagnosis.reportLines
  flag : diagnosis.healthy = true ↔ ∀ check ∈ diagnosis.checks, check.verdict.word ≠ "fail"
  signs : diagnosis.healthy = true ↔ ∀ check ∈ diagnosis.checks, check.verdict.sign ≠ "✗"
  told : status = if diagnosis.healthy then 0 else 1
  sound : status = 0 ↔ IsSound (FindsTool host) host (chosenStore host choices) settings
  located : WhichSearches host →
    (status = 0 ↔ IsSound (HasTool host) host (chosenStore host choices) settings)
  shown : status = 0 → ∀ others,
    Request.parse others = .ok (.run choices .showConfiguration) →
      (run others host).1 = 0 ∧ (run others after).1 = 0

/-- A diagnosis ends well exactly on a sound host, and says so. -/
theorem run_diagnoses_exactly {words : List String} {choices : CommonChoices}
    (parsed : Request.parse words = .ok (.run choices .doctor))
    (accepted : ((loadSettings choices (chosenStore host choices).root).run host).1 =
      .ok settings) :
    ∃ diagnosis status after,
      DiagnosesExactly words choices settings host diagnosis status after := by
  have accepts : acceptedSettings host choices (chosenStore host choices).root = .ok settings := by
    rcases run_loadSettings choices (chosenStore host choices).root host with ⟨errors, loaded⟩
    rw [← accepted, loaded]
  rcases run_of_accepted parsed rfl rfl accepts with ⟨noted, ran⟩
  rcases run_doctorTask host (readied host choices noted) (chosenStore host choices) settings
    choices.json with ⟨diagnosis, after, done, examined, environment, printed, examines⟩
  have flag_sound : diagnosis.healthy = true ↔
      IsSound (FindsTool host) host (chosenStore host choices) settings := by
    rw [examines.flag, isSound_readied]
    simp
  have status_zero : (if diagnosis.healthy then 0 else 1) = 0 ↔ diagnosis.healthy = true := by
    cases diagnosis.healthy <;> simp
  refine ⟨diagnosis, if diagnosis.healthy then 0 else 1, after, ?_⟩
  constructor
  · rw [ran]
    change finished (ExceptT.run (doctorTask _ _ choices.json) _) = _
    rw [done]
    cases diagnosis.healthy <;> rfl
  · exact printed
  · rw [examines.flag_iff]
    exact forall₂_congr fun check _ => not_congr (Verdict.word_eq_fail_iff check.verdict).symm
  · rw [examines.flag_iff]
    exact forall₂_congr fun check _ => not_congr (Verdict.sign_eq_cross_iff check.verdict).symm
  · rfl
  · rw [status_zero, flag_sound]
  · intro searches
    rw [status_zero, flag_sound]
    exact isSound_congr fun name => findsTool_iff_hasTool searches
  · intro well others asked
    have sound := flag_sound.mp (status_zero.mp well)
    rcases (exists_loadConfig_iff host _ settings).mp sound.configured with ⟨config, stored⟩
    constructor
    · rw [status_of_show asked, shownConfiguration, accepts, ok_bind, stored]
      rfl
    · have same_store : chosenStore after choices = chosenStore host choices := by
        rw [chosenStore, chosenStore, expandHome, expandHome, Host.setting?, Host.setting?,
          environment]
        rfl
      have still_there : after.files = (chosenStore host choices).examinedFiles host.files :=
        examined
      rw [status_of_show asked, shownConfiguration, same_store,
        acceptedSettings_examinedFiles still_there accepts, ok_bind, still_there,
        storedConfiguration_examinedFiles, stored]
      rfl

end

/-! ## A host with the tools -/

/-- The two tools and `which` in the one directory of the search path, and no store. -/
def toolHost : Host where
  files := ⟨[], [("bin", .directory
    [("juju", .file .empty), ("kubectl", .file .empty), ("which", .file .empty)])]⟩
  environment := [("PATH", "/bin")]
  programs := [⟨"juju", "/bin/juju", []⟩, ⟨"kubectl", "/bin/kubectl", []⟩,
    ⟨"which", "/bin/which", []⟩]
  now := .ofTime "now"

/-- The same host, on which `which` answers by a search. -/
def equippedHost : Host :=
  { toolHost with which := searchedBy toolHost }

theorem resolve_of_equipped {name : String} (is_name : IsEntryName name)
    (short : name.utf8ByteSize ≤ 100) :
    equippedHost.files.resolve (joinPath "/bin" name) = .ok (⟨true, ["bin", name]⟩,
      Entries.get? [("juju", .file .empty), ("kubectl", .file .empty), ("which", .file .empty)]
        name) := by
  have is_bin : IsEntryName "bin" := by
    refine ⟨⟨?_, ?_, ?_⟩, ?_, ?_⟩ <;> decide
  have pieces : pathPieces "/bin" = ["", "bin"] := by decide +kernel
  have leads_to : equippedHost.files.LeadsTo "/bin" ⟨true, ["bin"]⟩ := by
    refine ⟨⟨by decide, by decide, by decide⟩, by decide +kernel, ?_⟩
    rw [pieces]
    exact .stay rfl (.down is_bin.toIsName (.here ⟨_, rfl⟩))
  have four_bytes : "/bin".utf8ByteSize = 4 := rfl
  have usable : IsUsable (joinPath "/bin" name) := by
    refine isUsable_joinPath leads_to.usable is_name.no_slash is_name.no_nul ?_
    rw [four_bytes, Files.maxPathBytes]
    omega
  exact leads_to.resolve_entry rfl is_name usable

/-- A program is found in the one directory of the search path. -/
theorem hasTool_of_equipped {name : String} (is_name : IsEntryName name)
    (short : name.utf8ByteSize ≤ 100) {program : HostProgram}
    (there : program ∈ equippedHost.programs) (placed : program.path = joinPath "/bin" name) :
    HasTool equippedHost name := by
  have directories : equippedHost.searchPath = ["/bin"] := by decide +kernel
  have relative : name.contains '/' = false := by simpa using is_name.no_slash
  have some_name : name.isEmpty = false :=
    String.isEmpty_eq_false_iff.mpr is_name.isUsable.nonempty
  rw [HasTool, if_neg is_name.no_slash, Host.candidates, relative, some_name, directories]
  refine ⟨joinPath "/bin" name, List.mem_singleton_self _, ?_⟩
  refine Option.isSome_iff_exists.mp (List.find?_isSome.mpr ⟨program, there, ?_⟩)
  rw [placed, Host.isSamePlace, resolve_of_equipped is_name short]
  exact decide_eq_true rfl

theorem hasTools_of_equipped (name : String) (member : name ∈ ["juju", "kubectl"]) :
    HasTool equippedHost name := by
  simp only [List.mem_cons, List.not_mem_nil, or_false] at member
  rcases member with rfl | rfl
  · refine hasTool_of_equipped ⟨⟨?_, ?_, ?_⟩, ?_, ?_⟩ ?_ (.head _) ?_ <;> decide +kernel
  · refine hasTool_of_equipped ⟨⟨?_, ?_, ?_⟩, ?_, ?_⟩ ?_ (.tail _ (.head _)) ?_ <;> decide +kernel

/-- On a host with the tools and without a store a diagnosis ends well. -/
theorem run_diagnoses_equipped_host :
    let choices : CommonChoices := ⟨"store", none, none, true, false, false⟩
    let words := ["--store", "store", "--json", "doctor"]
    Request.parse words = .ok (.run choices .doctor) ∧
      ((loadSettings choices (chosenStore equippedHost choices).root).run equippedHost).1 =
        .ok {} ∧
      WhichSearches equippedHost ∧
      ∃ diagnosis after, DiagnosesExactly words choices {} equippedHost diagnosis 0 after := by
  intro choices words
  have parsed : Request.parse words = .ok (.run choices .doctor) := by decide +kernel
  have root : chosenStore equippedHost choices = ⟨"store"⟩ := by decide +kernel
  have no_store : (equippedHost.files.find "store").toOption = none :=
    Files.find_name equippedHost.files Layout.isEntryName_store
  have no_marker := Files.find_entry_of_absent (by decide) Layout.isEntryName_version.no_slash
    no_store
  have accepted : ((loadSettings choices (chosenStore equippedHost choices).root).run
      equippedHost).1 = .ok {} := by
    rcases run_loadSettings choices "store" equippedHost with ⟨errors, loaded⟩
    rw [root, loaded, acceptedSettings_of_absent rfl rfl (by decide) no_store]
  have searches : WhichSearches equippedHost := whichSearches_of_searchedBy toolHost
  have sound : IsSound (HasTool equippedHost) equippedHost (chosenStore equippedHost choices)
      {} := by
    rw [root]
    refine ⟨hasTools_of_equipped, ?_, ?_, ?_⟩
    · rintro path ⟨⟩
    · exact (exists_loadConfig_iff _ _ _).mpr
        ⟨_, storedConfiguration_of_absent (by decide) no_store⟩
    · intro initialized
      rw [Layout.isInitialized, Layout.versionFile, Files.exists?_eq_false_iff.mpr no_marker]
        at initialized
      cases initialized
  rcases run_diagnoses_exactly parsed accepted with ⟨diagnosis, status, after, exactly⟩
  have well := (exactly.located searches).mpr sound
  subst well
  exact ⟨parsed, accepted, searches, diagnosis, after, exactly⟩

end NetworkIsolation.CommandLine
