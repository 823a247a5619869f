import NetworkIsolation.Proofs.FileSystem.Siblings
import NetworkIsolation.Proofs.Store.ListedKeys
import NetworkIsolation.Proofs.Store.Saving

/-!
# A save changes one document or none

Before a save writes the document of its key, it takes the lock and prepares the
directory of the store, and each of these operations may fail when others are done.
They work at the places of the lock file and of the version marker, so that no file is
replaced and no other one is made.  What is loaded depends on what stands in the
directory of the documents, and the operations show nothing new there, with one
exception: behind a path like `new/../store` there may be documents that are not found
until the directory `new` is made on the way to the lock file.

A save that succeeds has found the version marker in order, or there was none, and
replaces the document of its key.
-/

namespace NetworkIsolation.Store

open NetworkIsolation.FileSystem NetworkIsolation.Json

open FileAction (IsAnchored createDirectories_of_isMade)
open Files (DiffersAt)

namespace Layout

variable {layout : Layout} {files opened prepared after : Files} {now : Moment} {key : String}
  {answers : Bucket} {location : Location}

/-! ## What is loaded -/

/-- What stands in the directory of the documents. -/
def shelf (layout : Layout) (files : Files) : Node :=
  files.shown layout.answersDirectory

/-- The names that are listed are those of the files on the shelf. -/
theorem visibleFiles_eq_shelf (layout : Layout) (files : Files) :
    layout.visibleFiles files = match layout.shelf files with
      | .file _ => .error (.system .notDirectory)
      | .directory entries => .ok (visibleNames (Entries.firsts entries)) := by
  rw [visibleFiles, shelf, Files.shown, Files.exists?, Files.listDirectory]
  cases files.find layout.answersDirectory with
  | error cause => rfl
  | ok node => cases node <;> rfl

theorem keys_congr (same : layout.shelf after = layout.shelf files) :
    layout.keys after = layout.keys files := by
  rw [keys, keys, visibleFiles_eq_shelf, visibleFiles_eq_shelf, same]

/-- The document of a key depends on what is found under its path. -/
theorem document?_congr (same : validateKey key = .ok () →
      (after.find (layout.answerPath key)).toOption =
        (files.find (layout.answerPath key)).toOption) :
    layout.document? after key = layout.document? files key := by
  cases validates : validateKey key with
  | error cause =>
      rw [document?, document?, validates]
      rfl
  | ok accepted =>
      have finds := same validates
      cases found : files.find (layout.answerPath key) with
      | error cause =>
          rw [found] at finds
          have absent : files.exists? (layout.answerPath key) = false := by
            rw [Files.exists?, found]
            rfl
          have still_absent : after.exists? (layout.answerPath key) = false := by
            rw [Files.exists?, finds]
            rfl
          rw [document?_of_absent validates absent, document?_of_absent validates still_absent]
      | ok node =>
          rw [found] at finds
          have still_found := toOption_eq_some.mp finds
          have texts : after.readText (layout.answerPath key) =
              files.readText (layout.answerPath key) := by
            rw [Files.readText, Files.readText, found, still_found]
          rw [document?, document?, validates]
          change (if after.exists? (layout.answerPath key) = true then _ else _) =
            if files.exists? (layout.answerPath key) = true then _ else _
          rw [if_pos (exists?_of_find still_found), if_pos (exists?_of_find found), texts]

theorem load_congr (same : validateKey key = .ok () →
      (after.find (layout.answerPath key)).toOption =
        (files.find (layout.answerPath key)).toOption) :
    layout.load after key = layout.load files key := by
  rw [load, load, document?_congr same]

theorem load_congr_shelf (same : layout.shelf after = layout.shelf files) (key : String) :
    layout.load after key = layout.load files key := by
  refine load_congr ?_
  intro valid
  by_cases usable : IsUsable (layout.answerPath key)
  · have is_name := isEntryName_documentName valid
    have nonempty := layout.answersDirectory_ne_empty
    have descends : ∀ any : Files, (any.find (layout.answerPath key)).toOption =
        (layout.shelf any).descend [documentName key] :=
      fun any => Files.find_entry_eq_shown nonempty is_name usable
    rw [descends, descends, same]
  · rw [Files.find_of_unusable usable, Files.find_of_unusable usable]

/-! ## Preparing -/

theorem actsAt_onFiles {made replaced : List String} {action : FileAction Unit}
    (acts : ActsAt made replaced action) : ActsAt made replaced (onFiles action) :=
  acts.adapt StoreError.system

theorem run_onFiles_state (action : FileAction Unit) (files : Files) :
    ((onFiles action).run files).2 = (action.run files).2 := rfl

theorem actsAt_openLock (layout : Layout) : ActsAt [layout.lockFile] [] layout.openLock := by
  refine ActsAt.bind ?_ fun _ => ?_
  · exact actsAt_onFiles ((FileAction.actsAt_createDirectories _).mono (by simp) (by simp))
  · exact actsAt_onFiles (FileAction.actsAt_whole fun _ _ => Files.differsAt_openFile)

/-- The version marker is made where there was none. -/
theorem actsAt_prepareAtOnce (layout : Layout) :
    ActsAt [layout.versionFile] [] layout.prepareAtOnce := by
  refine ActsAt.bind ?_ fun _ => ?_
  · exact actsAt_onFiles ((FileAction.actsAt_createDirectories _).mono (by simp) (by simp))
  intro files
  rw [run_get_bind]
  split
  · rw [run_checkFiles_state]
    exact .refl _ _ _
  · rename_i uninitialized
    rw [run_bind_cont, run_onFiles_whole]
    cases put : files.putFile layout.versionFile versionText.toUTF8 with
    | error cause => exact .refl _ _ _
    | ok made =>
        have absent : files.exists? layout.versionFile = false := by
          simpa [isInitialized] using uninitialized
        exact (Files.differsAt_putFile_of_absent absent put).trans
          (actsAt_onFiles (FileAction.actsAt_settle layout.root) made)

/-! ### The shelf -/

theorem shelf_of_whole {operation : Files → Except SystemError Files}
    (kept : ∀ made, operation files = .ok made → layout.shelf made = layout.shelf files) :
    layout.shelf ((onFiles (.whole operation)).run files).2 = layout.shelf files := by
  rw [run_onFiles_whole]
  cases changed : operation files with
  | error cause => rfl
  | ok made => exact kept made changed

/-- Nothing new is shown when the lock file is opened on an anchored path. -/
theorem shelf_of_openLock (anchored : IsAnchored files layout.root) :
    layout.shelf (layout.openLock.run files).2 = layout.shelf files := by
  refine state_of_run_bind (fun after => layout.shelf after = layout.shelf files) ?_ ?_
  · rw [run_onFiles_state]
    exact FileAction.shown_of_createDirectories_around isEntryName_lock isEntryName_answers anchored
  · intro _ between _ same
    refine (shelf_of_whole fun made opened => ?_).trans same
    exact Files.shown_congr (Files.find_sibling_of_openFile isEntryName_lock isEntryName_answers
      (by decide) opened)

/-- The lock file is opened in the directory of the store. -/
theorem isBase_of_openLock (done : layout.openLock.run files = (.ok (), opened)) :
    ∃ location, opened.IsBase layout.root location := by
  rcases ok_of_run_bind done with ⟨_, between, -, last⟩
  have opens := FileAction.ok_of_run_whole (ok_of_run_adapt last)
  rcases Files.openFile_eq_ok opens with ⟨place, found, resolved, -⟩
  rcases Files.isBase_of_resolve_entry isEntryName_lock.no_slash resolved with ⟨location, is_base⟩
  exact ⟨location, is_base.keeps (Files.differsAt_openFile opens).keeps⟩

theorem shelf_of_prepare (is_base : files.IsBase layout.root location) :
    layout.shelf (layout.prepareAtOnce.run files).2 = layout.shelf files := by
  refine state_of_run_bind (fun after => layout.shelf after = layout.shelf files) ?_ ?_
  · rw [run_onFiles_state]
    exact FileAction.shown_of_createDirectories_entry is_base isEntryName_answers
  intro _ between _ same
  rw [run_get_bind]
  split
  · rw [run_checkFiles_state]
    exact same
  · refine state_of_run_bind (fun after => layout.shelf after = layout.shelf files) ?_ ?_
    · refine (shelf_of_whole fun made put => ?_).trans same
      exact Files.shown_congr (Files.find_sibling_of_putFile isEntryName_version
        isEntryName_answers (by decide) put)
    · intro _ marked _ still_same
      rw [run_settle_state]
      exact still_same

/-! ### Both together -/

theorem actsAt_ready (layout : Layout) :
    ActsAt [layout.lockFile, layout.versionFile] [] layout.ready := by
  refine ActsAt.bind ?_ fun _ => ?_
  · exact layout.actsAt_openLock.mono (by simp) (by simp)
  · exact layout.actsAt_prepareAtOnce.mono (by simp) (by simp)

theorem shelf_of_ready (anchored : IsAnchored files layout.root) :
    layout.shelf (layout.ready.run files).2 = layout.shelf files := by
  refine state_of_run_bind (fun after => layout.shelf after = layout.shelf files)
    (shelf_of_openLock anchored) ?_
  intro _ opened done same
  rcases isBase_of_openLock done with ⟨location, is_base⟩
  exact (shelf_of_prepare is_base).trans same

theorem run_save_of_valid (valid : validateKey key = .ok ()) (now : Moment) (answers : Bucket) :
    (layout.save now key answers).run files =
      (layout.ready >>= fun _ => onFiles (.whole fun files => files.putFile (layout.answerPath key)
        (AnswerDocument.ofAnswers key now.time answers).toValue.pretty.toUTF8)).run files := by
  rw [run_save_eq, saveAtOnce, run_bind_of_ok (run_checkFiles valid)]

/-! ## The version marker -/

theorem verifyVersion_congr (same : after.find layout.versionFile = files.find layout.versionFile) :
    layout.verifyVersion after = layout.verifyVersion files := by
  rw [verifyVersion, verifyVersion, Files.readText, Files.readText, same]

/-- Only a file is a version marker in order. -/
theorem find_of_verifyVersion (verified : layout.verifyVersion files = .ok ()) :
    ∃ content, files.find layout.versionFile = .ok (.file content) := by
  rcases bind_eq_ok.mp verified with ⟨text, read, -⟩
  rcases bind_eq_ok.mp (mapError_eq_ok.mp read) with ⟨node, found, as_text⟩
  cases node with
  | directory entries => cases as_text
  | file content => exact ⟨content, found⟩

theorem verifyVersion_of_prepare (done : layout.prepareAtOnce.run files = (.ok (), prepared)) :
    layout.verifyVersion prepared = .ok () := by
  rcases ok_of_run_bind done with ⟨_, between, -, last⟩
  rw [run_get_bind] at last
  split at last
  · have unchanged := run_checkFiles_state layout.verifyVersion between
    rw [last] at unchanged
    cases unchanged
    exact ok_of_run_checkFiles last
  · rcases ok_of_run_bind last with ⟨_, marked, put, settled⟩
    have written := FileAction.ok_of_run_whole (ok_of_run_adapt put)
    have unchanged := run_settle_state layout.root marked
    rw [settled] at unchanged
    cases unchanged
    exact verifyVersion_of_marked (Files.find_of_putFile written)

/-- A marker that is there when the directory is ready is the one that was there before. -/
theorem verifyVersion_of_kept {made : List String} (differs : DiffersAt made [] files after)
    (verified : layout.verifyVersion after = .ok ())
    (initialized : layout.isInitialized files = true) : layout.verifyVersion files = .ok () := by
  rcases Files.find_of_exists? initialized with ⟨node, found⟩
  cases node with
  | file content =>
      rcases Files.resolve_of_find found with ⟨place, resolved⟩
      have still := differs.find_file resolved (by simp)
      rw [← verifyVersion_congr (still.trans found.symm)]
      exact verified
  | directory inner =>
      rcases differs.keeps.find_directory found with ⟨others, still⟩
      rcases find_of_verifyVersion verified with ⟨content, marker⟩
      cases still.symm.trans marker

theorem verifyVersion_of_ready (done : layout.ready.run files = (.ok (), prepared)) :
    layout.verifyVersion prepared = .ok () ∧
      (layout.isInitialized files = true → layout.verifyVersion files = .ok ()) := by
  have differs := layout.actsAt_ready files
  rw [done] at differs
  rcases ok_of_run_bind done with ⟨_, opened, -, prepares⟩
  have verified := verifyVersion_of_prepare prepares
  exact ⟨verified, verifyVersion_of_kept differs verified⟩

theorem documentName_ne_version (key : String) : documentName key ≠ "version" := by
  intro same
  have characters := congrArg String.toList same
  rw [toList_documentName] at characters
  have ending : ['.', 'j', 's', 'o', 'n'] <:+ "version".toList := ⟨key.toList, characters⟩
  exact absurd ending (by decide)

/-- The version marker stays in order when a document is written. -/
theorem verifyVersion_of_putFile {content : ByteArray} (valid : validateKey key = .ok ())
    (verified : layout.verifyVersion prepared = .ok ())
    (put : prepared.putFile (layout.answerPath key) content = .ok after) :
    layout.verifyVersion after = .ok () := by
  rcases find_of_verifyVersion verified with ⟨marker, found⟩
  rcases Files.resolve_of_find found with ⟨place, resolved⟩
  have still := (Files.differsAt_putFile put).find_file resolved ?_
  · rw [verifyVersion_congr (still.trans found.symm)]
    exact verified
  -- The document is not at the place of the marker, which has another name.
  intro path member
  rw [List.mem_singleton.mp member]
  rintro ⟨node, document⟩
  have written := Files.find_of_putFile put
  rw [Files.find, document] at written
  cases node with
  | none => cases written
  | some node =>
      cases written
      have is_name := isEntryName_documentName valid
      have marker_name := Files.getLast?_of_resolve resolved (by simp)
      have document_name := Files.getLast?_of_resolve document (by simp)
      rw [marker_name, versionFile, answerPath,
        Files.getLast?_pathPieces_joinPath isEntryName_version.no_slash] at document_name
      have last : (pathPieces (joinPath layout.answersDirectory (documentName key))).getLast? =
          some (documentName key) := Files.getLast?_pathPieces_joinPath is_name.no_slash
      exact documentName_ne_version key (Option.some.inj (last.symm.trans document_name.symm))

/-! ## A store that cannot be locked -/

/-- A store in the working directory in which the lock file cannot be opened. -/
def lockedStore : Files where
  working := [(".lock", .directory []),
    ("answers", .directory [("spaces.json", .file ByteArray.empty)])]
  root := []

theorem keysIn_lockedStore :
    keysIn (Entries.firsts [("spaces.json", .file ByteArray.empty)]) = ["spaces"] := by
  have named : (visibleNames (Entries.firsts
      [("spaces.json", Node.file ByteArray.empty)])).filterMap keyOfFile? = ["spaces"] := by
    decide +kernel
  rw [keysIn, named, List.mergeSort_singleton]

/-- A save fails where a directory is in the place of the lock file. -/
theorem run_save_of_locked {made : Files} {entries inner : List (String × Node)}
    (room : layout.HasRoom) (valid : validateKey key = .ok ())
    (making : (FileAction.createDirectories (parentPath layout.lockFile)).run files =
      (.ok (), made))
    (leads_to : made.LeadsTo layout.root location) (has_entries : made.HasEntries location entries)
    (locked : Entries.get? entries ".lock" = some (.directory inner))
    (now : Moment) (answers : Bucket) :
    (layout.save now key answers).run files = (.error (.system .isDirectory), made) := by
  have usable := isUsable_entry room leads_to.usable isEntryName_lock (by decide)
  have opens : made.openFile layout.lockFile = .error .isDirectory := by
    rw [Files.openFile, lockFile,
      leads_to.resolve_entry has_entries isEntryName_lock usable, locked]
    rfl
  have locks : layout.openLock.run files = (.error (.system .isDirectory), made) := by
    rw [openLock, run_bind_of_ok (run_onFiles making), run_onFiles_whole, opens]
  rw [save, run_bind_of_ok (run_checkFiles valid), run_bind_cont, locks]
  rfl

/-! ### A way that opens -/

/-- The same store after a directory was made beside it. -/
def lockedStoreWithNew : Files where
  working := lockedStore.working ++ [("new", .directory [])]
  root := []

theorem isEntryName_new : IsEntryName "new" := by
  refine ⟨⟨?_, ?_, ?_⟩, ?_, ?_⟩ <;> decide

theorem isUsable_around_new : IsUsable "new/.." := by
  refine ⟨?_, ?_, ?_⟩ <;> decide

theorem isAbsolute_around_new : isAbsolute "new/.." = false := by
  decide +kernel

theorem pathPieces_around_new : pathPieces "new/.." = ["new", ".."] := by
  decide +kernel

/-- What is missing is not stepped out of. -/
theorem followPath_around_absent (absent : Entries.get? files.working "new" = none)
    (piece : String) : files.followPath "new/.." ["new", piece] = .error .notFound := by
  have short : ¬ Files.maxNameBytes < "new".utf8ByteSize := by decide
  have tree : files.treeOf false = .directory files.working := rfl
  rw [Files.followPath_usable _ isUsable_around_new, isAbsolute_around_new, tree, Files.follow,
    if_neg (by decide), if_neg (by decide), if_neg short, absent]
  rfl

theorem hasEntries_around_made (files : Files) :
    (files.putNode ⟨false, ["new"]⟩ (.directory [])).HasEntries ⟨false, []⟩
      (Entries.insert files.working "new" (.directory [])) := by
  have root : files.HasEntries ⟨false, []⟩ files.working := rfl
  exact Files.descend_putNode ⟨false, []⟩ root (List.cons_ne_nil "new" []) (.directory [])

theorem leadsTo_around_made (files : Files) :
    (files.putNode ⟨false, ["new"]⟩ (.directory [])).LeadsTo "new/.." ⟨false, []⟩ := by
  have put := hasEntries_around_made files
  have made := (Node.descend_child put "new").trans (Entries.get?_insert_self _ _ _)
  refine ⟨isUsable_around_new, isAbsolute_around_new.symm, ?_⟩
  rw [pathPieces_around_new]
  exact .down isEntryName_new.toIsName (.up ⟨[], made⟩ (.here ⟨_, put⟩))

/-- Making the directories around what is missing makes one, and the way is open. -/
theorem createDirectories_around_absent (absent : Entries.get? files.working "new" = none) :
    (FileAction.createDirectories "new/..").run files =
      (.ok (), files.putNode ⟨false, ["new"]⟩ (.directory [])) := by
  have paths : enclosingPaths "new/.." = ["new/..", "new"] := by decide +kernel
  have unmade : files.makeDirectory "new/.." = .error .notFound := by
    rw [Files.makeDirectory, pathPieces_around_new]
    change (files.followPath "new/.." ["new", ""] >>= _) = _
    rw [followPath_around_absent absent]
    rfl
  have usable : IsUsable (joinPath "" "new") := by
    rw [Files.joinPath_empty]
    exact isEntryName_new.isUsable
  have makes := (Files.isBase_empty files).makeDirectory_entry rfl isEntryName_new usable absent
  rw [Files.joinPath_empty] at makes
  have nearest : (FileAction.ensureNearest [] ["new/..", "new"]).run files =
      (.ok ["new/.."], files.putNode ⟨false, ["new"]⟩ (.directory [])) := by
    rw [FileAction.run_ensureNearest, FileAction.run_ensureDirectory, unmade,
      FileAction.run_ensureNearest, FileAction.run_ensureDirectory, makes]
    rfl
  rw [FileAction.createDirectories, paths, run_bind_of_ok nearest, List.forM_eq_forM,
    List.forM_cons, run_bind_of_ok (FileAction.ensureDirectory_of_leadsTo (leadsTo_around_made _))]
  rfl

/-- A save fails on the lock file behind the directory that it has made. -/
theorem run_save_around_absent {inner : List (String × Node)}
    (absent : Entries.get? files.working "new" = none)
    (locked : Entries.get? (Entries.insert files.working "new" (.directory [])) ".lock" =
      some (.directory inner)) (valid : validateKey key = .ok ()) (now : Moment)
    (answers : Bucket) :
    ((⟨"new/.."⟩ : Layout).save now key answers).run files =
      (.error (.system .isDirectory), files.putNode ⟨false, ["new"]⟩ (.directory [])) := by
  have room : (⟨"new/.."⟩ : Layout).HasRoom := by
    change 6 + 142 ≤ 4095
    decide
  have around : parentPath (⟨"new/.."⟩ : Layout).lockFile = "new/.." := by decide +kernel
  have making := createDirectories_around_absent absent
  rw [← around] at making
  exact run_save_of_locked room valid making (leadsTo_around_made files)
    (hasEntries_around_made files) locked now answers

theorem followPath_around_new (piece : String) :
    lockedStore.followPath "new/.." ["new", piece] = .error .notFound :=
  followPath_around_absent rfl piece

theorem leadsTo_around_new : lockedStoreWithNew.LeadsTo "new/.." ⟨false, []⟩ :=
  leadsTo_around_made lockedStore

/-- Making the directories around the lock file makes one, and the store is found. -/
theorem createDirectories_around_new :
    (FileAction.createDirectories "new/..").run lockedStore = (.ok (), lockedStoreWithNew) :=
  createDirectories_around_absent rfl

/-! ## Saves -/

/-- Whether every file that has the name of a temporary one was there before. -/
def NoneTemporaryAdded (files after : Files) : Prop :=
  ∀ location letters content, location.names.getLast? = some (".tmp" ++ letters) →
    after.node? location = some (.file content) → files.node? location = some (.file content)

theorem noneTemporaryAdded_of_differsAt {made replaced : List String}
    (differs : DiffersAt made replaced files after)
    (unmarked : ∀ path ∈ made, ∀ letters, (pathPieces path).getLast? ≠ some (".tmp" ++ letters)) :
    NoneTemporaryAdded files after := by
  intro location letters content marked found
  rcases differs.expected location content found with before | ⟨path, member, there, resolved⟩
  · exact before
  · have same := Files.node?_of_resolve resolved
    rw [found] at same
    have last := Files.getLast?_of_resolve resolved (by rw [← same]; simp)
    exact absurd (last.symm.trans marked) (unmarked path member letters)

theorem getLast?_lockFile_unmarked (layout : Layout) (letters : String) :
    (pathPieces layout.lockFile).getLast? ≠ some (".tmp" ++ letters) := by
  rw [lockFile, Files.getLast?_pathPieces_joinPath isEntryName_lock.no_slash]
  exact fun same => lock_unmarked letters (Option.some.inj same)

theorem getLast?_versionFile_unmarked (layout : Layout) (letters : String) :
    (pathPieces layout.versionFile).getLast? ≠ some (".tmp" ++ letters) := by
  rw [versionFile, Files.getLast?_pathPieces_joinPath isEntryName_version.no_slash]
  exact fun same => version_unmarked letters (Option.some.inj same)

theorem getLast?_answerPath_unmarked (layout : Layout) (valid : validateKey key = .ok ())
    (letters : String) :
    (pathPieces (layout.answerPath key)).getLast? ≠ some (".tmp" ++ letters) := by
  change (pathPieces (joinPath layout.answersDirectory (documentName key))).getLast? ≠ _
  rw [Files.getLast?_pathPieces_joinPath (isEntryName_documentName valid).no_slash]
  exact fun same => documentName_unmarked valid letters (Option.some.inj same)

/-- What a save that fails leaves of the files. -/
structure LeavesAnswers (layout : Layout) (files after : Files) : Prop where
  /-- Every file is as it was, and none is new but the lock file and the version marker. -/
  differs : DiffersAt [layout.lockFile, layout.versionFile] [] files after
  no_temporary : NoneTemporaryAdded files after
  same_keys : IsAnchored files layout.root → layout.keys after = layout.keys files
  same_answers : IsAnchored files layout.root →
    ∀ key, layout.load after key = layout.load files key

/-- What a save that succeeds makes of the files. -/
structure ReplacesDocument (layout : Layout) (key text : String) (files after : Files) : Prop where
  /-- The document is replaced, and none is new but it, the lock file and the version marker. -/
  differs : DiffersAt [layout.lockFile, layout.versionFile, layout.answerPath key]
    [layout.answerPath key] files after
  no_temporary : NoneTemporaryAdded files after
  document : after.find (layout.answerPath key) = .ok (.file text.toUTF8)
  same_others : IsAnchored files layout.root →
    ∀ other, other ≠ key → layout.load after other = layout.load files other
  verified : layout.verifyVersion after = .ok ()
  verified_before : layout.isInitialized files = true → layout.verifyVersion files = .ok ()

theorem leavesAnswers_refl (layout : Layout) (files : Files) :
    layout.LeavesAnswers files files where
  differs := .refl _ _ files
  no_temporary _ _ _ _ there := there
  same_keys _ := rfl
  same_answers _ _ := rfl

theorem leavesAnswers_of_ready (layout : Layout) (files : Files) :
    layout.LeavesAnswers files (layout.ready.run files).2 where
  differs := layout.actsAt_ready files
  no_temporary := by
    refine noneTemporaryAdded_of_differsAt (layout.actsAt_ready files) ?_
    simp [getLast?_lockFile_unmarked, getLast?_versionFile_unmarked]
  same_keys anchored := keys_congr (shelf_of_ready anchored)
  same_answers anchored := load_congr_shelf (shelf_of_ready anchored)

/-- A save fails before the document is written or when it cannot be. -/
theorem leavesAnswers_of_failed_save {cause : StoreError}
    (failed : (layout.save now key answers).run files = (.error cause, after)) :
    layout.LeavesAnswers files after := by
  cases validates : validateKey key with
  | error fault =>
      rw [save, run_bind_cont, checkFiles, run_get_bind, validates] at failed
      cases failed
      exact layout.leavesAnswers_refl files
  | ok accepted =>
      have leaves := layout.leavesAnswers_of_ready files
      rw [run_save_of_valid validates] at failed
      rcases error_of_run_bind failed with unready | ⟨_, prepared, done, unwritten⟩
      · rw [unready] at leaves
        exact leaves
      · rw [done] at leaves
        rw [run_onFiles_whole] at unwritten
        split at unwritten
        · cases unwritten
        · cases unwritten
          exact leaves

theorem find_other_of_putFile {other : String} {content : ByteArray}
    (valid : validateKey key = .ok ()) (other_valid : validateKey other = .ok ())
    (different : other ≠ key)
    (put : prepared.putFile (layout.answerPath key) content = .ok after) :
    (after.find (layout.answerPath other)).toOption =
      (prepared.find (layout.answerPath other)).toOption := by
  refine Files.find_sibling_of_putFile (isEntryName_documentName valid)
    (isEntryName_documentName other_valid) ?_ put
  intro same
  exact different (documentName_injective same).symm

theorem replacesDocument_of_save
    (saved : (layout.save now key answers).run files = (.ok (), after)) :
    layout.ReplacesDocument key (AnswerDocument.ofAnswers key now.time answers).toValue.pretty
      files after := by
  rcases ok_of_run_bind saved with ⟨_, _, validates, -⟩
  have valid : validateKey key = .ok () := ok_of_run_checkFiles validates
  rw [run_save_of_valid valid] at saved
  rcases ok_of_run_bind saved with ⟨_, prepared, done, writes⟩
  have put := FileAction.ok_of_run_whole (ok_of_run_adapt writes)
  have leaves := layout.leavesAnswers_of_ready files
  rw [done] at leaves
  rcases verifyVersion_of_ready done with ⟨verified, verified_before⟩
  have differs : DiffersAt [layout.lockFile, layout.versionFile, layout.answerPath key]
      [layout.answerPath key] files after :=
    (leaves.differs.mono (by simp) (by simp)).trans
      ((Files.differsAt_putFile put).mono (by simp) (by simp))
  refine ⟨differs, ?_, Files.find_of_putFile put, ?_, verifyVersion_of_putFile valid verified put,
    verified_before⟩
  · refine noneTemporaryAdded_of_differsAt differs ?_
    simp [getLast?_lockFile_unmarked, getLast?_versionFile_unmarked,
      getLast?_answerPath_unmarked layout valid]
  · intro anchored other different
    refine (load_congr ?_).trans (leaves.same_answers anchored other)
    intro other_valid
    exact find_other_of_putFile valid other_valid different put

/-- A save replaces the document of its key, or it fails and leaves all answers alone. -/
theorem save_replaces_document_or_fails (layout : Layout) (now : Moment) (key : String)
    (answers : Bucket) (files : Files) :
    match (layout.save now key answers).run files with
    | (.ok (), after) => layout.ReplacesDocument key
        (AnswerDocument.ofAnswers key now.time answers).toValue.pretty files after
    | (.error _, after) => layout.LeavesAnswers files after := by
  rcases done : (layout.save now key answers).run files with ⟨outcome, after⟩
  cases outcome with
  | ok saved => exact replacesDocument_of_save done
  | error cause => exact leavesAnswers_of_failed_save done

theorem leadsTo_here (files : Files) : files.LeadsTo "." ⟨false, []⟩ := by
  have pieces : pathPieces "." = ["."] := by decide +kernel
  refine ⟨⟨by decide, by decide, by decide⟩, by decide +kernel, ?_⟩
  rw [pieces]
  exact .stay rfl (.here ⟨_, rfl⟩)

/-- A store in the working directory with a directory in the place of a document. -/
def occupiedStore : Files where
  working := [(".lock", .file ByteArray.empty), ("version", .file versionText.toUTF8),
    ("answers", .directory [("pools.json", .directory [])])]
  root := []

theorem hasRoom_here : (⟨"."⟩ : Layout).HasRoom := by
  change 1 + 142 ≤ 4095
  decide

theorem holds_occupiedStore : (⟨"."⟩ : Layout).Holds occupiedStore ⟨false, []⟩
    occupiedStore.working [("pools.json", .directory [])] := by
  have leads_to := leadsTo_here occupiedStore
  refine ⟨hasRoom_here, ?_, leads_to, rfl, rfl, rfl, rfl⟩
  exact FileAction.isMade_around (.inr leads_to) isEntryName_lock.own isEntryName_lock.no_slash

/--
A save fails in a locked store, and the keys are the same as before.  It fails over a
directory, too, and then its temporary file is gone.
-/
theorem failed_save_leaves_locked_store :
    let layout : Layout := ⟨"."⟩
    (IsAnchored lockedStore layout.root ∧
      ∃ cause after,
        (layout.save (.ofTime "now") "pools" []).run lockedStore = (.error cause, after) ∧
        layout.keys after = .ok ["spaces"]) ∧
      (layout.save (.ofTime "now") "pools" []).run occupiedStore =
        (.error (.system .isDirectory), occupiedStore) := by
  intro layout
  refine ⟨?_, holds_occupiedStore.run_save_of_directory (by decide +kernel) rfl (.ofTime "now") []⟩
  have anchored : IsAnchored lockedStore layout.root := .inr (by decide +kernel)
  have room : layout.HasRoom := hasRoom_here
  have leads_to : lockedStore.LeadsTo layout.root ⟨false, []⟩ := leadsTo_here lockedStore
  have has_entries : lockedStore.HasEntries ⟨false, []⟩ lockedStore.working := rfl
  have making := createDirectories_of_isMade
    (FileAction.isMade_around (.inr leads_to) isEntryName_lock.own isEntryName_lock.no_slash)
  have fails := run_save_of_locked room (by decide +kernel : validateKey "pools" = .ok ())
    making leads_to has_entries rfl (.ofTime "now") []
  have leaves := save_replaces_document_or_fails layout (.ofTime "now") "pools" [] lockedStore
  rw [fails] at leaves
  refine ⟨anchored, _, _, fails, (leaves.same_keys anchored).trans ?_⟩
  have found := leads_to.find_entry has_entries isEntryName_answers
    (isUsable_entry room leads_to.usable isEntryName_answers (by decide))
  rw [keys, visibleFiles_eq_shelf, shelf, answersDirectory,
    Files.shown_of_find (toOption_eq_some.mp found)]
  exact congrArg Except.ok keysIn_lockedStore

/-- The directory that a failed save has made may lead to answers that were not found before. -/
theorem failed_save_shows_answers :
    let layout : Layout := ⟨"new/.."⟩
    layout.keys lockedStore = .ok [] ∧
      (layout.save (.ofTime "now") "pools" []).run lockedStore =
        (.error (.system .isDirectory), lockedStoreWithNew) ∧
      layout.keys lockedStoreWithNew = .ok ["spaces"] := by
  intro layout
  have valid : validateKey "pools" = .ok () := by decide +kernel
  have room : layout.HasRoom := by
    change 6 + 142 ≤ 4095
    decide
  have usable := isUsable_around_new
  have has_entries : lockedStoreWithNew.HasEntries ⟨false, []⟩ lockedStoreWithNew.working := rfl
  have no_base : ¬ ∃ location, lockedStore.IsBase "new/.." location := by
    rintro ⟨location, ⟨impossible, -⟩ | leads_to⟩
    · exact absurd impossible (by decide)
    · rcases leads_to.hasEntries with ⟨entries, has_entries⟩
      have resolved := leads_to.resolve has_entries
      rw [Files.resolve, pathPieces_around_new, followPath_around_new] at resolved
      cases resolved
  refine ⟨?_, ?_, ?_⟩
  · rw [keys, visibleFiles_eq_shelf, shelf, answersDirectory,
      Files.shown_entry_of_no_base isEntryName_answers no_base]
    exact congrArg Except.ok List.mergeSort_nil
  · have around : parentPath layout.lockFile = "new/.." := by decide +kernel
    refine run_save_of_locked room valid ?_ leadsTo_around_new has_entries rfl (.ofTime "now") []
    rw [around]
    exact createDirectories_around_new
  · have found := leadsTo_around_new.find_entry has_entries isEntryName_answers
      (isUsable_entry room usable isEntryName_answers (by decide))
    rw [keys, visibleFiles_eq_shelf, shelf, answersDirectory,
      Files.shown_of_find (toOption_eq_some.mp found)]
    exact congrArg Except.ok keysIn_lockedStore
end Layout

end NetworkIsolation.Store
