import NetworkIsolation.Proofs.FileSystem.Replacement
import NetworkIsolation.Proofs.Store.Contents

/-!
# Saves without temporary files

A save writes the version marker and the document by way of temporary files.  `prepareAtOnce`
and `saveAtOnce` are the same operations with each file put in place at once.  From every
state of the files they come to the same result and the same files, because the directory of
each file was made before, so that no temporary file is ever left behind.  All that is known
of a save is known of it in this form.
-/

namespace NetworkIsolation.Store

open NetworkIsolation.FileSystem NetworkIsolation.Json

open FileAction (run_settle run_whole)

variable {files made : Files}

theorem run_onFiles {action : FileAction Unit} (done : action.run files = (.ok (), made)) :
    (onFiles action).run files = (.ok (), made) :=
  run_adapt_of_ok _ done

/-- Operations that do the same to the files are the same among those on a store. -/
theorem run_onFiles_congr {first second : FileAction Unit}
    (same : first.run files = second.run files) :
    (onFiles first).run files = (onFiles second).run files := by
  change ((first.run files).1.mapError _, (first.run files).2) =
    ((second.run files).1.mapError _, (second.run files).2)
  rw [same]

theorem run_onFiles_whole (operation : Files → Except SystemError Files) (files : Files) :
    (onFiles (.whole operation)).run files = match operation files with
      | .ok made => (.ok (), made)
      | .error cause => (.error (.system cause), files) := by
  change ((((FileAction.whole operation).run files).1.mapError StoreError.system),
    ((FileAction.whole operation).run files).2) = _
  rw [FileAction.whole, run_get_bind]
  cases operation files <;> rfl

theorem run_checkFiles {α : Type} {check : Files → Except StoreError α} {value : α}
    (passes : check files = .ok value) : (checkFiles check).run files = (.ok value, files) := by
  rw [checkFiles, run_get_bind, passes]
  rfl

theorem ok_of_run_checkFiles {α : Type} {check : Files → Except StoreError α} {value : α}
    (done : (checkFiles check).run files = (.ok value, made)) : check files = .ok value := by
  rw [checkFiles, run_get_bind] at done
  cases checked : check files with
  | error cause =>
      rw [checked] at done
      cases done
  | ok found =>
      rw [checked] at done
      cases done
      rfl

theorem run_checkFiles_state {α : Type} (check : Files → Except StoreError α) (files : Files) :
    ((checkFiles check).run files).2 = files := by
  rw [checkFiles, run_get_bind]
  cases check files <;> rfl

theorem run_settle_state (path : String) (files : Files) :
    ((onFiles (.settle path)).run files).2 = files := by
  change ((FileAction.settle path).run files).2 = files
  rw [FileAction.settle, run_get_bind]
  cases files.find path <;> rfl

theorem run_getFiles (files : Files) :
    (get : StoreAction Files).run files = (.ok files, files) := rfl

namespace Layout

variable {layout : Layout} {names : TemporaryNames} {now : Moment} {key : String}
  {answers : Bucket} {prepared : Files}

/-! ## The version marker -/

/-- Prepare the directory of a store, with the version marker put in place at once. -/
def prepareAtOnce (layout : Layout) : StoreAction Unit := do
  onFiles (.createDirectories layout.answersDirectory)
  if layout.isInitialized (← get) then
    checkFiles layout.verifyVersion
  else
    onFiles (.whole fun files => files.putFile layout.versionFile versionText.toUTF8)
    onFiles (.settle layout.root)

theorem version_unmarked (letters : String) : "version" ≠ ".tmp" ++ letters := by
  intro same
  have characters := congrArg (fun text => text.toList.head?) same
  simp at characters

theorem lock_unmarked (letters : String) : ".lock" ≠ ".tmp" ++ letters := by
  intro same
  have characters := congrArg (fun text => (text.toList.drop 1).head?) same
  simp at characters

/-- Where the directory of the documents was made, the one around it is there. -/
theorem leadsTo_of_making (making : (onFiles (.createDirectories layout.answersDirectory)).run
      files = (.ok (), made)) :
    (∃ location, made.LeadsTo layout.answersDirectory location) ∧
      ∃ location, made.IsBase layout.root location := by
  rcases Files.leadsTo_of_createDirectories isEntryName_answers (ok_of_run_adapt making) with
    ⟨location, leads_to⟩
  rcases leads_to.hasEntries with ⟨entries, has_entries⟩
  exact ⟨⟨location, leads_to⟩,
    Files.isBase_of_resolve_entry isEntryName_answers.no_slash (leads_to.resolve has_entries)⟩

theorem run_prepare_eq (layout : Layout) (names : TemporaryNames) (files : Files) :
    (layout.prepare names).run files = layout.prepareAtOnce.run files := by
  rw [prepare, prepareAtOnce]
  refine run_bind_congr rfl fun _ made making => ?_
  rcases (leadsTo_of_making making).2 with ⟨location, is_base⟩
  rw [run_get_bind, run_get_bind]
  split
  · rfl
  · refine run_bind_congr (run_onFiles_congr ?_) fun _ _ _ => rfl
    exact FileAction.run_replaceFile is_base isEntryName_version version_unmarked names _

/-- What is prepared has the directory of the documents. -/
theorem leadsTo_of_prepareAtOnce (done : layout.prepareAtOnce.run files = (.ok (), prepared)) :
    ∃ location, prepared.LeadsTo layout.answersDirectory location := by
  rcases ok_of_run_bind done with ⟨_, between, making, last⟩
  rcases (leadsTo_of_making making).1 with ⟨location, leads_to⟩
  rw [run_get_bind] at last
  split at last
  · have unchanged := run_checkFiles_state layout.verifyVersion between
    rw [last] at unchanged
    cases unchanged
    exact ⟨location, leads_to⟩
  · rcases ok_of_run_bind last with ⟨_, marked, put, settled⟩
    have unchanged := run_settle_state layout.root marked
    rw [settled] at unchanged
    cases unchanged
    have written := FileAction.ok_of_run_whole (ok_of_run_adapt put)
    exact ⟨location, leads_to.keeps (Files.differsAt_putFile written).keeps⟩

/-! ## The document -/

/-- What a save does before it writes the document. -/
def ready (layout : Layout) : StoreAction Unit := do
  layout.openLock
  layout.prepareAtOnce

/-- Save answers, with each file put in place at once. -/
def saveAtOnce (layout : Layout) (time key : String) (answers : Bucket) : StoreAction Unit := do
  checkFiles fun _ => validateKey key
  layout.ready
  let text := (AnswerDocument.ofAnswers key time answers).toValue.pretty
  onFiles (.whole fun files => files.putFile (layout.answerPath key) text.toUTF8)

/-- A document is put in place in the directory of the documents, which stays there. -/
theorem run_replaceDocument {location : Location} (valid : validateKey key = .ok ())
    (leads_to : files.LeadsTo layout.answersDirectory location) (names : TemporaryNames)
    (content : ByteArray) :
    (do
      onFiles (.replaceFile names layout.answersDirectory (layout.answerPath key) content)
      onFiles (.settle layout.answersDirectory) : StoreAction Unit).run files =
      (onFiles (.whole fun files => files.putFile (layout.answerPath key) content)).run files := by
  have replaces := FileAction.run_replaceFile (.inr leads_to) (isEntryName_documentName valid)
    (documentName_unmarked valid) names content
  have first := run_onFiles_congr replaces
  change (onFiles (.replaceFile names layout.answersDirectory (layout.answerPath key)
    content)).run files = (onFiles (.whole fun files => files.putFile (layout.answerPath key)
      content)).run files at first
  rw [run_onFiles_whole] at first
  rw [run_onFiles_whole]
  cases put : files.putFile (layout.answerPath key) content with
  | error cause =>
      rw [put] at first
      exact run_bind_of_error first
  | ok made =>
      rw [put] at first
      have still := leads_to.keeps (Files.differsAt_putFile put).keeps
      rcases still.hasEntries with ⟨entries, has_entries⟩
      rw [run_bind_of_ok first]
      exact run_onFiles (run_settle (still.find has_entries))

/-- A save comes to what it would come to without temporary files. -/
theorem run_save_eq (layout : Layout) (now : Moment) (key : String) (answers : Bucket)
    (files : Files) :
    (layout.save now key answers).run files =
      (layout.saveAtOnce now.time key answers).run files := by
  rw [save, saveAtOnce]
  refine run_bind_congr rfl fun _ checked validates => ?_
  have valid : validateKey key = .ok () := ok_of_run_checkFiles validates
  rw [ready, bind_assoc]
  refine run_bind_congr rfl fun _ opened _ => ?_
  refine run_bind_congr (run_prepare_eq layout now.names opened) fun _ prepared done => ?_
  rcases leadsTo_of_prepareAtOnce done with ⟨location, leads_to⟩
  exact run_replaceDocument valid leads_to now.names _

end Layout

end NetworkIsolation.Store
