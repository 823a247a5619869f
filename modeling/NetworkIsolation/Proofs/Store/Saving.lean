import NetworkIsolation.Proofs.FileSystem.OrdinaryPaths
import NetworkIsolation.Proofs.Store.Replacing

/-!
# Saving in a store on files

The first save makes the directory of the store and what belongs into it; the
later ones find all of that and only replace the document.  A store is fresh if
its directory is not there but can be made, which leaves it empty.  That is so for
every ordinary path that no file is in the way of.
-/

namespace NetworkIsolation.Store

open NetworkIsolation.FileSystem NetworkIsolation.Json

open FileAction (IsMade createDirectories_of_isMade createDirectories_entry
  isMade_of_createDirectories run_whole run_settle)

variable {files opened prepared made : Files}

namespace Layout

variable {layout : Layout} {location : Location} {entries documents : List (String × Node)}
  {buckets : Entries Bucket} {now : Moment} {key : String} {answers : Bucket}

/-- A store whose directory is not there and is made without a failure. -/
structure IsFresh (layout : Layout) (files made : Files) : Prop where
  room : layout.HasRoom
  absent : files.exists? layout.root = false
  making : (FileAction.createDirectories (parentPath layout.lockFile)).run files = (.ok (), made)
  /-- It is the root that was not there, and not a directory on the way as in `new/..`. -/
  empty : made.find layout.root = .ok (.directory [])

/-- A store can be started where nothing is, on every ordinary path. -/
theorem exists_isFresh (room : layout.HasRoom) (way : FileAction.IsOpenWay files layout.root)
    (absent : files.exists? layout.root = false) : ∃ made, layout.IsFresh files made := by
  rcases FileAction.createDirectories_around way isEntryName_lock.own isEntryName_lock.no_slash
    absent with ⟨made, making, empty⟩
  exact ⟨made, room, absent, making, empty⟩

/-! ## Later saves -/

theorem Holds.run_openLock (holds : layout.Holds files location entries documents) :
    layout.openLock.run files = (.ok (), files) := by
  have usable := isUsable_entry holds.room holds.leads_to.usable isEntryName_lock (by decide)
  rw [openLock, run_bind_of_ok (run_onFiles (createDirectories_of_isMade holds.is_made))]
  exact run_onFiles (run_whole
    (holds.leads_to.openFile_present holds.has_entries isEntryName_lock usable holds.lock))

theorem Holds.run_prepare (holds : layout.Holds files location entries documents) :
    layout.prepareAtOnce.run files = (.ok (), files) := by
  have usable := isUsable_entry holds.room holds.leads_to.usable isEntryName_version (by decide)
  have finds := holds.leads_to.find_entry holds.has_entries isEntryName_version usable
  have found : files.find layout.versionFile = .ok (.file versionText.toUTF8) :=
    toOption_eq_some.mp (finds.trans holds.version)
  have initialized : layout.isInitialized files = true := exists?_of_find found
  have is_made : IsMade files layout.answersDirectory := .inr ⟨_, holds.directory.1⟩
  rw [prepareAtOnce, run_bind_of_ok (run_onFiles (createDirectories_of_isMade is_made)),
    run_bind_of_ok (run_getFiles files), if_pos initialized]
  exact run_checkFiles (verifyVersion_of_marked found)

/-! ## The first save -/

/-- The lock file is made in the new directory. -/
theorem IsFresh.run_openLock (fresh : layout.IsFresh files made) :
    ∃ opened location, layout.openLock.run files = (.ok (), opened) ∧
      IsMade opened (parentPath layout.lockFile) ∧ opened.LeadsTo layout.root location ∧
      opened.HasEntries location [(".lock", .file ByteArray.empty)] := by
  rcases Files.leadsTo_of_find fresh.empty with ⟨location, leads_to, has_entries⟩
  have usable := isUsable_entry fresh.room leads_to.usable isEntryName_lock (by decide)
  rcases leads_to.put_entry has_entries (Files.no_directory_of_absent rfl)
    (.file ByteArray.empty) with ⟨keeps, still_leads, entries⟩
  refine ⟨_, location, ?_, ?_, still_leads, entries⟩
  · rw [openLock, run_bind_of_ok (run_onFiles fresh.making)]
    exact run_onFiles (run_whole
      (leads_to.openFile_absent has_entries isEntryName_lock usable rfl))
  · exact (isMade_of_createDirectories fresh.making).2.keeps keeps

/-- The directory of the documents and the version marker are made. -/
theorem run_prepare_of_opened (room : layout.HasRoom)
    (is_made : IsMade opened (parentPath layout.lockFile))
    (leads_to : opened.LeadsTo layout.root location)
    (has_entries : opened.HasEntries location [(".lock", .file ByteArray.empty)]) :
    ∃ prepared entries, layout.prepareAtOnce.run opened = (.ok (), prepared) ∧
      layout.Holds prepared location entries [] := by
  have usable_answers := isUsable_entry room leads_to.usable isEntryName_answers (by decide)
  have usable_version := isUsable_entry room leads_to.usable isEntryName_version (by decide)
  have absent : Entries.get? [(".lock", Node.file ByteArray.empty)] "answers" = none := by
    simp [Entries.get?]
  rcases leads_to.put_entry has_entries (Files.no_directory_of_absent absent)
    (.directory []) with ⟨first_keeps, first_leads, first_entries⟩
  have created := createDirectories_entry (.inr leads_to) has_entries isEntryName_answers
    usable_answers absent
  generalize opened.putNode (location.child "answers") (.directory []) = between at *
  have no_version : Entries.get? (Entries.insert [(".lock", Node.file ByteArray.empty)] "answers"
      (.directory [])) "version" = none := by
    simp [Entries.get?, Entries.insert]
  have uninitialized : layout.isInitialized between = false := by
    have finds := first_leads.find_entry first_entries isEntryName_version usable_version
    rw [isInitialized, Files.exists?, versionFile, finds, no_version]
    rfl
  have no_directory := Files.no_directory_of_absent no_version
  rcases first_leads.put_entry first_entries no_directory (.file versionText.toUTF8) with
    ⟨second_keeps, second_leads, second_entries⟩
  have put := first_leads.putFile_entry first_entries isEntryName_version usable_version
    no_directory versionText.toUTF8
  refine ⟨_, _, ?_, ⟨room, (is_made.keeps first_keeps).keeps second_keeps, second_leads,
    second_entries, ?_, ?_, ?_⟩⟩
  · rw [prepareAtOnce, answersDirectory, run_bind_of_ok (run_onFiles created),
      run_bind_of_ok (run_getFiles between), if_neg (ne_true_of_eq_false uninitialized),
      run_bind_of_ok (run_onFiles (run_whole put))]
    exact run_onFiles (run_settle (second_leads.find second_entries))
  · simp [Entries.get?, Entries.insert]
  · simp [Entries.get?, Entries.insert]
  · simp [Entries.get?, Entries.insert]

/-! ## The document -/

theorem run_ready (locks : layout.openLock.run files = (.ok (), opened))
    (prepares : layout.prepareAtOnce.run opened = (.ok (), prepared)) :
    layout.ready.run files = (.ok (), prepared) := by
  rw [ready, run_bind_of_ok locks]
  exact prepares

/-- Once the directory is prepared, saving replaces the document of the key. -/
theorem run_save_of_prepared (now : Moment) (answers : Bucket)
    (locks : layout.openLock.run files = (.ok (), opened))
    (prepares : layout.prepareAtOnce.run opened = (.ok (), prepared))
    (holds : layout.Holds prepared location entries documents) (valid : validateKey key = .ok ())
    (no_directory : ∀ inner,
      Entries.get? documents (documentName key) ≠ some (.directory inner)) :
    ∃ saved entries, (layout.save now key answers).run files = (.ok (), saved) ∧
      layout.Holds saved location entries (Entries.insert documents (documentName key)
        (.file (AnswerDocument.ofAnswers key now.time answers).toValue.pretty.toUTF8)) := by
  rcases holds.directory with ⟨leads_to, has_entries⟩
  have put := leads_to.putFile_entry has_entries (isEntryName_documentName valid)
    (isUsable_answerPath holds.room holds.leads_to.usable valid) no_directory
    (AnswerDocument.ofAnswers key now.time answers).toValue.pretty.toUTF8
  rcases holds.has_entries.put_inner holds.answers no_directory
    (.file (AnswerDocument.ofAnswers key now.time answers).toValue.pretty.toUTF8) with
    ⟨keeps, entries⟩
  refine ⟨_, _, ?_, ⟨holds.room, holds.is_made.keeps keeps, holds.leads_to.keeps keeps,
    entries, ?_, ?_, ?_⟩⟩
  · rw [run_save_eq, saveAtOnce, run_bind_of_ok (run_checkFiles valid),
      run_bind_of_ok (run_ready locks prepares)]
    exact run_onFiles (run_whole put)
  · rw [Entries.get?_insert_of_ne _ _ (by decide)]
    exact holds.lock
  · rw [Entries.get?_insert_of_ne _ _ (by decide)]
    exact holds.version
  · exact Entries.get?_insert_self _ _ _

/-- The first save leaves one document. -/
theorem IsFresh.run_save (fresh : layout.IsFresh files made) (valid : validateKey key = .ok ())
    (now : Moment) (answers : Bucket) :
    ∃ saved location entries, (layout.save now key answers).run files = (.ok (), saved) ∧
      layout.Holds saved location entries [(documentName key,
        .file (AnswerDocument.ofAnswers key now.time answers).toValue.pretty.toUTF8)] := by
  rcases fresh.run_openLock with ⟨opened, location, locks, is_made, leads_to, has_entries⟩
  rcases run_prepare_of_opened fresh.room is_made leads_to has_entries with
    ⟨prepared, entries, prepares, holds⟩
  rcases run_save_of_prepared now answers locks prepares holds valid
    (fun inner found => by cases found) with ⟨saved, entries, saves, holds⟩
  exact ⟨saved, location, entries, saves, holds⟩

/-- A later save replaces or appends one document. -/
theorem Holds.run_save (holds : layout.Holds files location entries documents)
    (valid : validateKey key = .ok ())
    (no_directory : ∀ inner, Entries.get? documents (documentName key) ≠ some (.directory inner))
    (now : Moment) (answers : Bucket) :
    ∃ saved entries, (layout.save now key answers).run files = (.ok (), saved) ∧
      layout.Holds saved location entries (Entries.insert documents (documentName key)
        (.file (AnswerDocument.ofAnswers key now.time answers).toValue.pretty.toUTF8)) :=
  run_save_of_prepared now answers holds.run_openLock holds.run_prepare holds valid no_directory

/-- A save fails where a directory is in the place of the document, and nothing has changed. -/
theorem Holds.run_save_of_directory {inner : List (String × Node)}
    (holds : layout.Holds files location entries documents) (valid : validateKey key = .ok ())
    (occupied : Entries.get? documents (documentName key) = some (.directory inner))
    (now : Moment) (answers : Bucket) :
    (layout.save now key answers).run files = (.error (.system .isDirectory), files) := by
  rcases holds.directory with ⟨leads_to, has_entries⟩
  have resolved := leads_to.resolve_entry has_entries (isEntryName_documentName valid)
    (isUsable_answerPath holds.room holds.leads_to.usable valid)
  rw [occupied] at resolved
  have refused (content : ByteArray) :
      files.putFile (layout.answerPath key) content = .error .isDirectory := by
    change files.putFile (joinPath layout.answersDirectory (documentName key)) content = _
    rw [Files.putFile, resolved]
    rfl
  rw [run_save_eq, saveAtOnce, run_bind_of_ok (run_checkFiles valid),
    run_bind_of_ok (run_ready holds.run_openLock holds.run_prepare), run_onFiles_whole, refused]

/-- After a save, the same answers are loaded exactly if they are reread as they were. -/
theorem load_of_save_iff (distinct : (Value.object answers).HasDistinctNames)
    (saved : (layout.save now key answers).run files = (.ok (), made)) :
    layout.load made key = .ok answers ↔ Value.rereadEntries 125 answers = some answers := by
  rw [run_save_eq] at saved
  rcases ok_of_run_bind saved with ⟨_, checked, validates, afterwards⟩
  rcases ok_of_run_bind afterwards with ⟨_, prepared, -, put⟩
  have valid : validateKey key = .ok () := ok_of_run_checkFiles validates
  have written := FileAction.ok_of_run_whole (ok_of_run_adapt put)
  exact load_of_find_iff valid distinct (Files.find_of_putFile written)

end Layout

end NetworkIsolation.Store
