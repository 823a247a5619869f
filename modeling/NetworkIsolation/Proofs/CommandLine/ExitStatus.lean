import NetworkIsolation.Proofs.CommandLine.Loading
import NetworkIsolation.Proofs.CommandLine.RangeHistories
import NetworkIsolation.Proofs.Configuration.Grammar
import NetworkIsolation.Proofs.Store.Atomicity

/-!
# What the exit status tells

The exit status of a failed command is told from how its message begins.  Messages hold
paths, names and the words of other errors, but they begin with words of their own, and no
two of these beginnings go on to become each other.  So the status is a function of the kind
of failure, whatever the message says behind its beginning.

A command that loads the configuration meets failures of three kinds, one after the other:
the settings, the two buckets in the store, and the shapes of their sections.  Showing the
configuration and changing the ranges both stop at the first one.  A change of ranges can
also fail in the store when it is saved, and then it leaves the answers as they were.
-/

namespace NetworkIsolation.CommandLine

open NetworkIsolation.Backend NetworkIsolation.Configuration NetworkIsolation.Document
open NetworkIsolation.FileSystem NetworkIsolation.Json NetworkIsolation.Reconcile
open NetworkIsolation.Store NetworkIsolation.Text

open FileAction (IsAnchored)

/-! ## Beginnings of messages -/

/-- How a message goes on does not count once no start of another one can come of it. -/
theorem statusOfMessage_append {beginning : String} (rest : String)
    (settled : ∀ start ∈ configurationStarts ++ storeStarts,
      beginning.toList <+: start.toList → start.toList <+: beginning.toList) :
    statusOfMessage (beginning ++ rest) = statusOfMessage beginning := by
  have begins : beginning.toList <+: (beginning ++ rest).toList := by
    rw [String.toList_append]
    exact List.prefix_append _ _
  have same : ∀ start ∈ configurationStarts ++ storeStarts,
      (beginning ++ rest).startsWith start = beginning.startsWith start := by
    intro start member
    rw [Bool.eq_iff_iff, String.startsWith_string_iff, String.startsWith_string_iff]
    constructor
    · intro starts
      rcases List.prefix_or_prefix_of_prefix starts begins with shorter | longer
      · exact shorter
      · exact settled start member longer
    · intro starts
      exact starts.trans begins
  have same_any : ∀ starts ⊆ configurationStarts ++ storeStarts,
      (starts.any fun start => (beginning ++ rest).startsWith start) =
        starts.any fun start => beginning.startsWith start := by
    intro starts among
    rw [Bool.eq_iff_iff, List.any_eq_true, List.any_eq_true]
    refine exists_congr fun start => and_congr_right fun member => ?_
    rw [same start (among member)]
  rw [statusOfMessage, statusOfMessage, same_any _ (List.subset_append_left _ _),
    same_any _ (List.subset_append_right _ _)]

theorem statusOfMessage_configuration (rest : String) :
    statusOfMessage ("configuration error: " ++ rest) = 2 := by
  rw [statusOfMessage_append rest (by decide +kernel)]
  decide +kernel

theorem statusOfMessage_store (rest : String) : statusOfMessage ("store error: " ++ rest) = 3 := by
  rw [statusOfMessage_append rest (by decide +kernel)]
  decide +kernel

/-- The exit status by the kind of failure. -/
def TaskFailure.statusOfKind : TaskFailure → Nat
  | .settings _ _ => 2
  | .blankModel => 2
  | .engine (.configuration _) => 2
  | .engine (.store _) => 3
  | _ => 1

theorem exitStatus_eq_statusOfKind (failure : TaskFailure) :
    failure.exitStatus = failure.statusOfKind := by
  cases failure with
  | settings path cause =>
      change statusOfMessage ("configuration error: " ++ path ++ ": " ++ cause.message) = 2
      rw [String.append_assoc, String.append_assoc, statusOfMessage_configuration]
  | blankModel =>
      change statusOfMessage ("configuration error: " ++ "--model must not be empty") = 2
      rw [statusOfMessage_configuration]
  | missingTools missing => rfl
  | engine cause =>
      cases cause with
      | configuration cause => exact statusOfMessage_configuration cause.message
      | store cause => exact statusOfMessage_store cause.message
  | nothingToSet =>
      change statusOfMessage "nothing to set: pass --public, --internal, --shared or --clear" = 1
      decide +kernel
  | noDirectory cause =>
      change statusOfMessage ("failed to create dir: " ++ cause.message) = 1
      rw [statusOfMessage_append _ (by decide +kernel)]
      decide +kernel
  | notWritten path cause =>
      change statusOfMessage ("failed to write " ++ path ++ ": " ++ cause.message) = 1
      rw [String.append_assoc, String.append_assoc, statusOfMessage_append _ (by decide +kernel)]
      decide +kernel

/-! ## Settings that are refused -/

/-- Why the settings of a command line are refused. -/
inductive RefusesSettings (host : Host) (choices : CommonChoices) : Prop where
  | unread {path : String} {cause : SystemError}
      (chosen : settingsPath? host choices (chosenStore host choices).root = some path)
      (unread : host.files.readText path = .error cause)
  /-- The text of the settings is not parsed, or what it says is not valid. -/
  | malformed {path text : String} {cause : ConfigurationError}
      (chosen : settingsPath? host choices (chosenStore host choices).root = some path)
      (is_text : host.files.readText path = .ok text)
      (malformed : Settings.parse text = .error cause)
  | blankModel {model : String} (given : choices.model = some model)
      (blank : isAllBlank model = true)

section

variable {host : Host} {choices : CommonChoices} {store : String} {failure : TaskFailure}

theorem storedSettings_cases (host : Host) (choices : CommonChoices) (store : String) :
    (∃ settings, storedSettings host choices store = .ok settings) ∨
      ∃ path cause, settingsPath? host choices store = some path ∧
        settingsOf host.files path = .error cause ∧
        storedSettings host choices store = .error (.settings path cause) := by
  rw [storedSettings]
  cases settingsPath? host choices store with
  | none => exact .inl ⟨{}, rfl⟩
  | some path =>
      cases settled : settingsOf host.files path with
      | ok settings =>
          refine .inl ⟨settings, ?_⟩
          simp only [settled]
          rfl
      | error cause =>
          refine .inr ⟨path, cause, rfl, settled, ?_⟩
          simp only [settled]
          rfl

theorem withModel_eq_error {settings : Settings} {model? : Option String} :
    withModel settings model? = .error failure ↔
      ∃ model, model? = some model ∧ isAllBlank model = true ∧ failure = .blankModel := by
  cases model? with
  | none => simp [withModel]
  | some model =>
      rw [withModel]
      split
      · rename_i blank
        constructor
        · intro same
          cases same
          exact ⟨model, rfl, blank, rfl⟩
        · rintro ⟨_, ⟨⟩, -, rfl⟩
          rfl
      · rename_i visible
        constructor
        · intro impossible
          cases impossible
        · rintro ⟨_, ⟨⟩, blank, -⟩
          exact absurd blank visible

/-- Refused settings are what keeps the settings from being accepted. -/
theorem exists_refused_iff : (∃ failure,
      acceptedSettings host choices (chosenStore host choices).root = .error failure) ↔
    RefusesSettings host choices := by
  rw [acceptedSettings]
  constructor
  · rintro ⟨failure, refused⟩
    rcases storedSettings_cases host choices (chosenStore host choices).root with
      ⟨settings, stored⟩ | ⟨path, cause, chosen, unsettled, stored⟩
    · rw [stored, ok_bind] at refused
      rcases withModel_eq_error.mp refused with ⟨model, given, blank, -⟩
      exact .blankModel given blank
    · rw [settingsOf] at unsettled
      split at unsettled
      · exact .malformed chosen ‹_› unsettled
      · exact .unread chosen ‹_›
  · intro refuses
    rcases storedSettings_cases host choices (chosenStore host choices).root with
      ⟨settings, stored⟩ | ⟨path, cause, chosen, unsettled, stored⟩
    · rw [stored, ok_bind]
      cases refuses with
      | unread chosen unread =>
          rw [storedSettings, chosen] at stored
          simp only [settingsOf, unread] at stored
          cases stored
      | malformed chosen is_text malformed =>
          rw [storedSettings, chosen] at stored
          simp only [settingsOf, is_text, malformed] at stored
          cases stored
      | blankModel given blank =>
          exact ⟨.blankModel, withModel_eq_error.mpr ⟨_, given, blank, rfl⟩⟩
    · exact ⟨_, by rw [stored]; rfl⟩

theorem exitStatus_of_refused
    (refused : acceptedSettings host choices store = .error failure) :
    failure.exitStatus = 2 := by
  rw [exitStatus_eq_statusOfKind]
  rw [acceptedSettings] at refused
  rcases storedSettings_cases host choices store with
    ⟨settings, stored⟩ | ⟨path, cause, -, -, stored⟩
  · rw [stored, ok_bind] at refused
    rcases withModel_eq_error.mp refused with ⟨model, -, -, rfl⟩
    rfl
  · rw [stored] at refused
    cases refused
    rfl

end

/-! ## Buckets that are stored -/

section

variable {layout : Layout} {files : Files} {key : String} {bucket : Bucket}

/-- The names in a bucket that is loaded are distinct. -/
theorem distinct_of_load (loaded : layout.load files key = .ok bucket) :
    (Value.object bucket).HasDistinctNames := by
  have empty : (Value.object []).HasDistinctNames := by
    simp [Value.HasDistinctNames, Value.EntriesHaveDistinctNames]
  rcases bind_eq_ok.mp loaded with ⟨document?, found, same⟩
  cases same
  cases document? with
  | none => exact empty
  | some document =>
      rw [Layout.document?] at found
      rcases bind_eq_ok.mp found with ⟨_, -, found⟩
      simp only at found
      split at found
      · rcases bind_eq_ok.mp found with ⟨text, -, found⟩
        rcases bind_eq_ok.mp found with ⟨parsed, is_document, same⟩
        cases same
        rcases bind_eq_ok.mp is_document with ⟨decoded, decodes, verified⟩
        rcases bind_eq_ok.mp verified with ⟨_, -, same⟩
        cases same
        exact AnswerDocument.answers_of_decode empty
          (fun read => (Reader.wasRead_of_bucket read).distinct) (mapError_eq_ok.mp decodes)
      · cases found

/-- Whether one of the two buckets is not loaded. -/
def StoreFails (layout : Layout) (files : Files) : Prop :=
  ∃ key ∈ [isolationKey, addonsKey], ∃ cause, layout.load files key = .error cause

/-- Whether the sections of the two buckets have their shapes, as far as they are there. -/
structure HasShapes (layout : Layout) (files : Files) : Prop where
  isolation : ∀ isolation, layout.load files isolationKey = .ok isolation →
    (isolation.get? isolationSectionName).all (Shape.orNull isolationShape) = true
  addons : ∀ addons, layout.load files addonsKey = .ok addons →
    (addons.get? addonsSectionName).all (Shape.orNull addonsShape) = true

theorem storedConfiguration_of_storeFails (fails : StoreFails layout files) :
    ∃ cause, storedConfiguration layout files = .error (.store cause) := by
  rw [storedConfiguration]
  rcases fails with ⟨key, member, cause, failed⟩
  simp only [List.mem_cons, List.not_mem_nil, or_false] at member
  cases isolation_loaded : layout.load files isolationKey with
  | error first => exact ⟨first, rfl⟩
  | ok isolation =>
      rcases member with rfl | rfl
      · cases isolation_loaded.symm.trans failed
      · exact ⟨cause, by rw [failed]; rfl⟩

theorem loads_of_not_storeFails (loads : ¬ StoreFails layout files) :
    ∃ isolation addons, layout.load files isolationKey = .ok isolation ∧
      layout.load files addonsKey = .ok addons := by
  have each : ∀ key ∈ [isolationKey, addonsKey], ∃ bucket, layout.load files key = .ok bucket := by
    intro key member
    cases loaded : layout.load files key with
    | error cause => exact absurd ⟨key, member, cause, loaded⟩ loads
    | ok bucket => exact ⟨bucket, rfl⟩
  rcases each isolationKey (by simp) with ⟨isolation, isolation_loaded⟩
  rcases each addonsKey (by simp) with ⟨addons, addons_loaded⟩
  exact ⟨isolation, addons, isolation_loaded, addons_loaded⟩

/-- What is loaded is a configuration exactly if the sections have their shapes. -/
theorem storedConfiguration_of_loads (loads : ¬ StoreFails layout files) :
    (HasShapes layout files ∧ ∃ config, storedConfiguration layout files = .ok config) ∨
      (¬ HasShapes layout files ∧
        ∃ cause, storedConfiguration layout files = .error (.configuration cause)) := by
  rcases loads_of_not_storeFails loads with ⟨isolation, addons, isolation_loaded, addons_loaded⟩
  have stored : storedConfiguration layout files =
      (IsolationConfig.ofAnswers isolation addons).mapError .configuration := by
    rw [storedConfiguration, isolation_loaded, addons_loaded]
    rfl
  have isolation_shape : (∃ part, isolationSection isolation = .ok part) ↔
      (isolation.get? isolationSectionName).all (Shape.orNull isolationShape) = true :=
    exists_readSection_iff accepts_isolation (distinct_of_load isolation_loaded)
  have addons_shape : (∃ ranges, poolRanges addons = .ok ranges) ↔
      (addons.get? addonsSectionName).all (Shape.orNull addonsShape) = true :=
    exists_readSection_iff accepts_addons (distinct_of_load addons_loaded)
  have shapes : HasShapes layout files ↔
      ∃ config, IsolationConfig.ofAnswers isolation addons = .ok config := by
    constructor
    · intro has_shapes
      rcases isolation_shape.mpr (has_shapes.isolation isolation isolation_loaded) with
        ⟨part, part_read⟩
      rcases addons_shape.mpr (has_shapes.addons addons addons_loaded) with ⟨ranges, ranges_read⟩
      exact ⟨_, ofAnswers_eq_ok_iff.mpr ⟨part, ranges, part_read, ranges_read, rfl⟩⟩
    · rintro ⟨config, read⟩
      rcases ofAnswers_eq_ok_iff.mp read with ⟨part, ranges, part_read, ranges_read, -⟩
      constructor
      · intro other loaded
        cases isolation_loaded.symm.trans loaded
        exact isolation_shape.mp ⟨part, part_read⟩
      · intro other loaded
        cases addons_loaded.symm.trans loaded
        exact addons_shape.mp ⟨ranges, ranges_read⟩
  rw [shapes, stored]
  cases IsolationConfig.ofAnswers isolation addons with
  | ok config => exact .inl ⟨⟨config, rfl⟩, config, rfl⟩
  | error cause =>
      refine .inr ⟨?_, cause, rfl⟩
      rintro ⟨config, impossible⟩
      cases impossible

end

/-! ## Loading by kinds of failures -/

/--
What a status tells of the settings and answers that a command line loads: which of the three
kinds of failures was met first, or else that something else holds.
-/
structure TellsFailures (host : Host) (choices : CommonChoices) (status : Nat)
    (otherwise : Prop) : Prop where
  refused : RefusesSettings host choices → status = 2
  unloaded : ¬ RefusesSettings host choices →
    StoreFails (chosenStore host choices) host.files → status = 3
  misshapen : ¬ RefusesSettings host choices →
    ¬ StoreFails (chosenStore host choices) host.files →
    ¬ HasShapes (chosenStore host choices) host.files → status = 2
  loaded : ¬ RefusesSettings host choices →
    ¬ StoreFails (chosenStore host choices) host.files →
    HasShapes (chosenStore host choices) host.files → otherwise

section

variable {host : Host} {choices : CommonChoices}

theorem accepts_of_not_refused (accepts : ¬ RefusesSettings host choices) :
    ∃ settings, acceptedSettings host choices (chosenStore host choices).root = .ok settings := by
  cases accepted : acceptedSettings host choices (chosenStore host choices).root with
  | ok settings => exact ⟨settings, rfl⟩
  | error failure => exact absurd (exists_refused_iff.mp ⟨failure, accepted⟩) accepts

/-- A status tells the kinds of failures if it is that of what would be shown. -/
theorem tellsFailures_of_shown {status : Nat} {otherwise : Prop}
    (fails : ∀ failure, shownConfiguration host choices = .error failure →
      status = failure.exitStatus)
    (loads : ∀ config, shownConfiguration host choices = .ok config → otherwise) :
    TellsFailures host choices status otherwise where
  refused refuses := by
    rcases exists_refused_iff.mpr refuses with ⟨failure, refused⟩
    rw [fails failure (by rw [shownConfiguration, refused]; rfl), exitStatus_of_refused refused]
  unloaded accepts unloaded := by
    rcases accepts_of_not_refused accepts with ⟨settings, accepted⟩
    rcases storedConfiguration_of_storeFails unloaded with ⟨cause, stored⟩
    rw [fails (.engine (.store cause))
      (by rw [shownConfiguration, accepted, ok_bind, stored]; rfl), exitStatus_eq_statusOfKind]
    rfl
  misshapen accepts loaded misshapen := by
    rcases accepts_of_not_refused accepts with ⟨settings, accepted⟩
    rcases storedConfiguration_of_loads loaded with ⟨has_shapes, -⟩ | ⟨-, cause, stored⟩
    · exact absurd has_shapes misshapen
    · rw [fails (.engine (.configuration cause))
        (by rw [shownConfiguration, accepted, ok_bind, stored]; rfl), exitStatus_eq_statusOfKind]
      rfl
  loaded accepts loaded has_shapes := by
    rcases accepts_of_not_refused accepts with ⟨settings, accepted⟩
    rcases storedConfiguration_of_loads loaded with ⟨-, config, stored⟩ | ⟨misshapen, -⟩
    · exact loads config (by rw [shownConfiguration, accepted, ok_bind, stored]; rfl)
    · exact absurd has_shapes misshapen

end

/-! ## Changes of the ranges -/

section

variable {host : Host} {layout : Layout} {choices : CommonChoices} {words : List String}
  {ranges : RangeChoices}

/-- A save is done on the files of a host, and noted. -/
theorem run_saveOnHost (layout : Layout) (now : Moment) (key : String) (answers : Bucket)
    (host : Host) :
    ∃ errors, (layout.store Host.filesPart now).save key answers host =
      (((layout.save now key answers).run host.files).1,
        { host with files := ((layout.save now key answers).run host.files).2, errors }) := by
  have saves := run_lift_files (layout.save now key answers).run host
  simp only [Layout.store, run_bind, saves]
  rcases (layout.save now key answers).run host.files with ⟨result, saved⟩
  cases result with
  | error cause => exact ⟨host.errors, rfl⟩
  | ok done =>
      rcases record_cases ⟨.answers, .debug, "saved answers for '" ++ key ++ "'"⟩
        { host with files := saved } with ⟨errors, recorded⟩
      refine ⟨errors, ?_⟩
      rw [← recorded]
      rfl

/-- Ranges are stored by one save. -/
theorem run_setRanges (ready : Host) (settings : Settings) {addons : Bucket}
    (loaded : layout.load host.files addonsKey = .ok addons) (changed : PoolRanges) :
    ∃ errors, (engineOn ready layout settings).setRanges changed host =
      (((layout.save ready.now addonsKey (setPoolRanges addons changed)).run
          host.files).1.mapError .store,
        { host with
          files := ((layout.save ready.now addonsKey (setPoolRanges addons changed)).run
            host.files).2
          errors }) := by
  have loads : (engineOn ready layout settings).loadBucket addonsKey host = (.ok addons, host) := by
    change ((layout.load host.files addonsKey).mapError EngineError.store, host) = _
    rw [loaded]
    rfl
  rcases run_saveOnHost layout ready.now addonsKey (setPoolRanges addons changed) host with
    ⟨errors, saved⟩
  have saves : (engineOn ready layout settings).store.save addonsKey
      (setPoolRanges addons changed) host = _ := saved
  simp only [Engine.setRanges, run_bind, loads, saves]
  rcases (layout.save ready.now addonsKey (setPoolRanges addons changed)).run host.files with
    ⟨result, after⟩
  cases result with
  | error cause => exact ⟨errors, rfl⟩
  | ok done =>
      rcases record_cases ⟨.engine, .info, "stored load-balancer ranges in '" ++ addonsKey ++ "'"⟩
        { host with files := after, errors } with ⟨noted, recorded⟩
      refine ⟨noted, ?_⟩
      simp only [mapError_ok]
      rw [← recorded]
      rfl

/-- Storing ranges ends well or fails as the save does. -/
theorem run_storeRanges_of_load (ready : Host) (settings : Settings) {addons : Bucket}
    (loaded : layout.load host.files addonsKey = .ok addons) (json : Bool)
    (changed : PoolRanges) :
    ∃ result after, (layout.save ready.now addonsKey (setPoolRanges addons changed)).run
        host.files = (result, after.files) ∧
      (storeRanges (engineOn ready layout settings) json changed).run host =
        ((result.map fun _ => true).mapError fun cause => .engine (.store cause), after) := by
  rcases run_setRanges ready settings loaded changed with ⟨errors, set⟩
  have sets := run_ofEngine ((engineOn ready layout settings).setRanges changed) host
  rw [set] at sets
  rcases done : (layout.save ready.now addonsKey (setPoolRanges addons changed)).run host.files
    with ⟨result, saved⟩
  rw [done] at sets
  refine ⟨result, ?_⟩
  rw [storeRanges]
  cases result with
  | ok stored =>
      rw [run_bind_of_ok sets]
      cases json <;> exact ⟨_, rfl, rfl⟩
  | error cause =>
      rw [run_bind_of_error sets]
      exact ⟨_, rfl, rfl⟩

theorem addons_of_storedConfiguration {files : Files} {config : IsolationConfig}
    (stored : storedConfiguration layout files = .ok config) :
    ∃ addons, layout.load files addonsKey = .ok addons := by
  rcases bind_eq_ok.mp stored with ⟨isolation, -, stored⟩
  rcases bind_eq_ok.mp stored with ⟨addons, loaded, -⟩
  exact ⟨addons, mapError_eq_ok.mp loaded⟩

/-- What a change of ranges comes to, by what would be shown. -/
structure ChangesRanges (words : List String) (choices : CommonChoices) (host : Host) : Prop where
  unloaded : ∀ failure, shownConfiguration host choices = .error failure →
    ∃ after, run words host = (failure.exitStatus, after) ∧ after.files = host.files
  /-- The ranges are changed by one save. -/
  loaded : ∀ config, shownConfiguration host choices = .ok config →
    ∃ addons result after, ((chosenStore host choices).save host.now addonsKey addons).run
        host.files = (result, after.files) ∧
      run words host = (if result.isOk then 0 else 3, after)

theorem changesRanges_of_asked
    (parsed : Request.parse words = .ok (.run choices (.setRanges ranges)))
    (asked : ranges.isEmpty = false) (kept : ranges.clear = false) (host : Host) :
    ChangesRanges words choices host := by
  cases accepted : acceptedSettings host choices (chosenStore host choices).root with
  | error refusal =>
      rcases run_of_refused parsed rfl accepted with ⟨errors, ran⟩
      have shown : shownConfiguration host choices = .error refusal := by
        rw [shownConfiguration, accepted]
        rfl
      constructor
      · intro failure failed
        cases shown.symm.trans failed
        exact ⟨_, ran, rfl⟩
      · intro config impossible
        cases shown.symm.trans impossible
  | ok settings =>
      rcases run_of_accepted parsed rfl rfl accepted with ⟨noted, ran⟩
      have shown : shownConfiguration host choices =
          (storedConfiguration (chosenStore host choices) host.files).mapError .engine := by
        rw [shownConfiguration, accepted]
        rfl
      rcases run_loadConfig_readied host choices settings noted with ⟨errors, loads⟩
      have task : runOnEngine choices (engineOn host (chosenStore host choices) settings)
          (chosenStore host choices) (.setRanges ranges) =
          ofEngine (engineOn host (chosenStore host choices) settings).loadConfig >>= fun config =>
            storeRanges (engineOn host (chosenStore host choices) settings) choices.json
              (changedRanges ranges config.poolRanges) := by
        change rangesTask _ ranges choices.json = _
        rw [rangesTask_of_asked _ asked, kept]
        rfl
      rw [task] at ran
      cases stored : storedConfiguration (chosenStore host choices) host.files with
      | error cause =>
          rw [stored] at shown loads
          rw [run_bind_of_error loads] at ran
          constructor
          · intro failure failed
            cases shown.symm.trans failed
            exact ⟨_, ran, rfl⟩
          · intro config impossible
            cases shown.symm.trans impossible
      | ok config =>
          rcases addons_of_storedConfiguration stored with ⟨addons, addons_loaded⟩
          rw [stored] at shown loads
          rw [run_bind_of_ok loads] at ran
          constructor
          · intro failure impossible
            cases shown.symm.trans impossible
          · intro _ _
            have still_loaded : (chosenStore host choices).load
                (readied host choices errors).files addonsKey = .ok addons := addons_loaded
            rcases run_storeRanges_of_load host settings still_loaded choices.json
              (changedRanges ranges config.poolRanges) with ⟨result, after, saves, stores⟩
            rw [stores] at ran
            cases result with
            | ok stored => exact ⟨_, _, after, saves, ran⟩
            | error cause =>
                have status := exitStatus_eq_statusOfKind (.engine (.store cause))
                exact ⟨_, .error cause, (finished (.error (.engine (.store cause)), after)).2,
                  saves, ran.trans (Prod.ext status rfl)⟩

/-! ## Words that ask for a change -/

theorem isRun_of_helpRequest {names : List String} {request : Request}
    (asked : helpRequest names = .ok request) : request.isRun = false := by
  rw [helpRequest.eq_def] at asked
  split at asked
  · cases asked
    rfl
  · cases asked
    rfl
  · split at asked
    · cases asked
      rfl
    · cases asked
  · cases asked

theorem exists_given_of_namedRequest {before : Given} {word : String} {rest : List String}
    (asked : namedRequest before word rest = .ok (.run choices (.setRanges ranges))) :
    ∃ given, rangeChoices given = .ok ranges := by
  rw [namedRequest] at asked
  split at asked
  · cases isRun_of_helpRequest asked
  · split at asked
    · rename_i rule known
      rw [commandRequest] at asked
      split at asked
      · cases asked
      · cases asked
      · cases asked
      · rename_i given scanned
        have task : taskOf rule.name given = .ok (.setRanges ranges) := by
          cases found : taskOf rule.name given with
          | error fault =>
              rw [found] at asked
              cases asked
          | ok task =>
              rw [found] at asked
              cases asked
              rfl
        rw [taskOf.eq_def] at task
        split at task
        case h_2 =>
          cases chosen : rangeChoices given with
          | error fault =>
              rw [chosen] at task
              cases task
          | ok found =>
              rw [chosen] at task
              cases task
              exact ⟨given, chosen⟩
        all_goals cases task
    · cases asked

/-- A command for the ranges makes its choices of what was given. -/
theorem exists_given_of_parse
    (parsed : Request.parse words = .ok (.run choices (.setRanges ranges))) :
    ∃ given, rangeChoices given = .ok ranges := by
  rw [Request.parse] at parsed
  split at parsed
  · cases parsed
  · cases parsed
  · cases parsed
  · cases parsed
  · cases parsed
  · exact exists_given_of_namedRequest parsed
  · rcases bind_eq_ok.mp parsed with ⟨request, asked, parsed⟩
    split at parsed
    · cases parsed
    · cases parsed
      exact exists_given_of_namedRequest asked

/-- Clearing goes with no range. -/
theorem clear_of_given {given : Given} (chosen : rangeChoices given = .ok ranges)
    {name : RangeName} (some_value : (name.given ranges).isSome = true) :
    ranges.clear = false := by
  simp only [rangeChoices] at chosen
  split at chosen
  · split at chosen
    · cases chosen
    · rename_i kept
      cases chosen
      exact eq_false_of_ne_true kept
  · rename_i nothing
    cases chosen
    rw [List.find?_eq_none] at nothing
    cases name with
    | publicRange => exact absurd some_value (nothing "public" (by simp))
    | internalRange => exact absurd some_value (nothing "internal" (by simp))
    | sharedRange => exact absurd some_value (nothing "shared" (by simp))

theorem isEmpty_of_given {name : RangeName} (some_value : (name.given ranges).isSome = true) :
    ranges.isEmpty = false := by
  have not_none : (name.given ranges).isNone = false := by
    rw [← Option.not_isSome, some_value]
    rfl
  rw [RangeChoices.isEmpty]
  cases name <;> simp only [RangeName.given] at not_none <;> simp [not_none]

end

/-! ## Both commands -/

/--
What the exit statuses of two commands tell, of which one shows the configuration and one
changes ranges with the same options.
-/
structure TellsApart (choices : CommonChoices) (showWords rangesWords : List String)
    (host : Host) : Prop where
  /-- Whatever a message holds, the status is that of the kind of failure. -/
  kinds : ∀ failure : TaskFailure, failure.exitStatus = failure.statusOfKind
  showing : TellsFailures host choices (run showWords host).1 ((run showWords host).1 = 0)
  changing : TellsFailures host choices (run rangesWords host).1
    ((run rangesWords host).1 = 0 ∨ (run rangesWords host).1 = 3)
  leaves : (run rangesWords host).1 ≠ 0 →
    (chosenStore host choices).LeavesAnswers host.files (run rangesWords host).2.files

/-- The exit status tells the kind of the failure, and a failed change leaves the answers. -/
theorem statuses_tell_failures_apart {choices : CommonChoices} {ranges : RangeChoices}
    {showWords rangesWords : List String} {name : RangeName}
    (shows : Request.parse showWords = .ok (.run choices .showConfiguration))
    (changes : Request.parse rangesWords = .ok (.run choices (.setRanges ranges)))
    (some_value : (name.given ranges).isSome = true) (host : Host) :
    TellsApart choices showWords rangesWords host := by
  rcases exists_given_of_parse changes with ⟨given, chosen⟩
  have changed := changesRanges_of_asked changes (isEmpty_of_given some_value)
    (clear_of_given chosen some_value) host
  constructor
  · exact exitStatus_eq_statusOfKind
  · refine tellsFailures_of_shown ?_ ?_
    · intro failure failed
      rw [status_of_show shows, failed]
    · intro config shown
      rw [status_of_show shows, shown]
  · refine tellsFailures_of_shown ?_ ?_
    · intro failure failed
      rcases changed.unloaded failure failed with ⟨after, ran, -⟩
      rw [ran]
    · intro config shown
      rcases changed.loaded config shown with ⟨addons, result, after, -, ran⟩
      rw [ran]
      cases result with
      | ok stored => exact .inl rfl
      | error cause => exact .inr rfl
  · intro failed
    cases shown : shownConfiguration host choices with
    | error failure =>
        rcases changed.unloaded failure shown with ⟨after, ran, same⟩
        rw [ran, same]
        exact Layout.leavesAnswers_refl _ _
    | ok config =>
        rcases changed.loaded config shown with ⟨addons, result, after, saves, ran⟩
        rw [ran] at failed
        rw [ran]
        cases result with
        | ok stored => exact absurd rfl failed
        | error cause => exact Layout.leavesAnswers_of_failed_save saves

/-! ## A store that cannot be locked -/

/-- Answers with which isolation is enabled. -/
def enabledAnswers : Bucket :=
  [(isolationSectionName, .object [("enable_isolation", .bool true)])]

def enabledDocument : Node :=
  .file (AnswerDocument.ofAnswers isolationKey "now" enabledAnswers).toValue.pretty.toUTF8

/-- A host with answers beside what cannot be opened as a lock file. -/
def lockedHost : Host where
  files := {
    working := [(".lock", .directory [("x", .file .empty)]),
      ("answers", .directory [(documentName isolationKey, enabledDocument)])]
    root := [] }
  environment := []
  programs := []
  now := .ofTime "now"

/-- Both commands on answers that cannot be changed. -/
theorem statuses_tell_of_locked_host :
    let choices : CommonChoices := ⟨".", none, none, false, false, false⟩
    let ranges : RangeChoices := ⟨some "10.0.0.1-10.0.0.9", none, none, false⟩
    let showWords := ["--store", ".", "show"]
    let rangesWords := ["--store", ".", "ranges", "--public", "10.0.0.1-10.0.0.9"]
    Request.parse showWords = .ok (.run choices .showConfiguration) ∧
      Request.parse rangesWords = .ok (.run choices (.setRanges ranges)) ∧
      (RangeName.publicRange.given ranges).isSome = true ∧
      TellsApart choices showWords rangesWords lockedHost := by
  intro choices ranges showWords rangesWords
  have shows : Request.parse showWords = .ok (.run choices .showConfiguration) := by
    decide +kernel
  have changes : Request.parse rangesWords = .ok (.run choices (.setRanges ranges)) := by
    decide +kernel
  have some_value : (RangeName.publicRange.given ranges).isSome = true := rfl
  exact ⟨shows, changes, some_value,
    statuses_tell_failures_apart shows changes some_value lockedHost⟩

/-- A change that fails may show answers that were not found before it. -/
theorem failed_change_shows_answers :
    let choices : CommonChoices := ⟨"new/..", none, none, false, false, false⟩
    let ranges : RangeChoices := ⟨some "10.0.0.1-10.0.0.9", none, none, false⟩
    let words := ["--store", "new/..", "ranges", "--public", "10.0.0.1-10.0.0.9"]
    let layout := chosenStore lockedHost choices
    Request.parse words = .ok (.run choices (.setRanges ranges)) ∧
      (run words lockedHost).1 = 3 ∧
      layout.load lockedHost.files isolationKey = .ok [] ∧
      layout.load (run words lockedHost).2.files isolationKey = .ok enabledAnswers := by
  intro choices ranges words layout
  have changes : Request.parse words = .ok (.run choices (.setRanges ranges)) := by
    decide +kernel
  have root : layout = ⟨"new/.."⟩ := by decide +kernel
  have root_path : layout.root = "new/.." := congrArg Layout.root root
  have nonempty : layout.root ≠ "" := by
    rw [root_path]
    decide
  have absent : (lockedHost.files.find layout.root).toOption = none := by
    rw [root_path, Files.find, Files.resolve, Layout.pathPieces_around_new,
      Layout.followPath_around_absent rfl]
    rfl
  have shown : shownConfiguration lockedHost choices = .ok ⟨false, [], .none⟩ := by
    rw [shownConfiguration, acceptedSettings_of_absent rfl rfl nonempty absent, ok_bind,
      storedConfiguration_of_absent nonempty absent]
    rfl
  rcases (changesRanges_of_asked changes rfl rfl lockedHost).loaded _ shown with
    ⟨addons, result, after, saves, ran⟩
  have no_new : Entries.get? lockedHost.files.working "new" = none := rfl
  have fails := Layout.run_save_around_absent no_new rfl valid_addonsKey lockedHost.now addons
  rw [← root] at fails
  rcases Prod.mk.inj (saves.symm.trans fails) with ⟨rfl, left⟩
  rw [ran]
  refine ⟨changes, rfl, Layout.load_of_absent_root nonempty absent valid_isolationKey, ?_⟩
  -- The root leads to the working directory now, where the answers are.
  have room : layout.HasRoom := by
    rw [root]
    change 6 + 142 ≤ 4095
    decide
  have leads_to := Layout.leadsTo_around_made lockedHost.files
  rw [← root_path] at leads_to
  have answers_short := Layout.isUsable_entry room leads_to.usable Layout.isEntryName_answers
    (by decide)
  rcases leads_to.child (Layout.hasEntries_around_made lockedHost.files)
    Layout.isEntryName_answers answers_short rfl with ⟨leads_inside, inside⟩
  have found := leads_inside.find_entry inside (isEntryName_documentName valid_isolationKey)
    (Layout.isUsable_answerPath room leads_to.usable valid_isolationKey)
  have stored : Entries.get? [(documentName isolationKey, enabledDocument)]
      (documentName isolationKey) = some enabledDocument := Entries.get?_insert_self [] _ _
  have distinct : (Value.object enabledAnswers).HasDistinctNames :=
    ⟨by decide, ⟨by decide, trivial, trivial⟩, trivial⟩
  rw [left]
  exact (Layout.load_of_find_iff valid_isolationKey distinct
    (toOption_eq_some.mp (found.trans stored))).mpr rfl

end NetworkIsolation.CommandLine
