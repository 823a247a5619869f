import NetworkIsolation.Proofs.FileSystem.Directories
import NetworkIsolation.Proofs.Store.Envelope
import NetworkIsolation.Proofs.Store.Keys

/-!
# What a store on files holds

After the first save the directory of a store has a lock file, the version marker
and a directory with one document for each key that was saved.  Here is what
loading finds in such a directory, and that saving leads from one to the next.

The documents stand in the same order as the buckets of a store in memory: both
replace an entry in its place and append a new one.
-/

namespace NetworkIsolation.Store

open NetworkIsolation.FileSystem NetworkIsolation.Json

/-- Whether answers are read back as they were saved. -/
structure IsStorable (answers : Bucket) : Prop where
  distinct : (Value.object answers).HasDistinctNames
  reread : Value.rereadEntries 125 answers = some answers

/-- Whether a file is the document of a key with its bucket, whenever it was saved. -/
structure IsDocument (bucket : String × Bucket) (file : String × Node) : Prop where
  valid : validateKey bucket.1 = .ok ()
  storable : IsStorable bucket.2
  named : file.1 = documentName bucket.1
  content : ∃ now, file.2 =
    .file (AnswerDocument.ofAnswers bucket.1 now bucket.2).toValue.pretty.toUTF8

/-! ## Documents and buckets -/

section

variable {buckets : Entries Bucket} {documents : List (String × Node)}

theorem get?_documents (related : List.Forall₂ IsDocument buckets documents) (key : String) :
    (Entries.get? buckets key = none ∧ Entries.get? documents (documentName key) = none) ∨
      ∃ answers file, Entries.get? buckets key = some answers ∧
        Entries.get? documents (documentName key) = some file ∧
        IsDocument (key, answers) (documentName key, file) := by
  induction related with
  | nil => exact .inl ⟨rfl, rfl⟩
  | @cons bucket file buckets documents document related induction_hypothesis =>
      rcases bucket with ⟨saved, answers⟩
      rcases file with ⟨name, node⟩
      have named : name = documentName saved := document.named
      subst named
      by_cases same : saved = key
      · subst same
        refine .inr ⟨answers, node, ?_, ?_, document⟩
        · rw [Entries.get?, if_pos rfl]
        · rw [Entries.get?, if_pos rfl]
      · have different : documentName saved ≠ documentName key :=
          fun names => same (documentName_injective names)
        rw [Entries.get?, Entries.get?, if_neg same, if_neg different]
        exact induction_hypothesis

/-- Every document is a file. -/
theorem no_directory_documents (related : List.Forall₂ IsDocument buckets documents)
    (key : String) (inner : List (String × Node)) :
    Entries.get? documents (documentName key) ≠ some (.directory inner) := by
  intro found
  rcases get?_documents related key with ⟨-, absent⟩ | ⟨answers, file, -, there, document⟩
  · rw [absent] at found
    cases found
  · rw [there] at found
    cases found
    rcases document.content with ⟨now, impossible⟩
    cases impossible

theorem insert_documents (related : List.Forall₂ IsDocument buckets documents) {key : String}
    {answers : Bucket} {node : Node}
    (document : IsDocument (key, answers) (documentName key, node)) :
    List.Forall₂ IsDocument (Entries.insert buckets key answers)
      (Entries.insert documents (documentName key) node) := by
  induction related with
  | nil => exact .cons document .nil
  | @cons bucket file buckets documents first related induction_hypothesis =>
      rcases bucket with ⟨saved, others⟩
      rcases file with ⟨name, content⟩
      have named : name = documentName saved := first.named
      subst named
      by_cases same : saved = key
      · subst same
        rw [Entries.insert, Entries.insert, if_pos rfl, if_pos rfl]
        exact .cons document related
      · have different : documentName saved ≠ documentName key :=
          fun names => same (documentName_injective names)
        rw [Entries.insert, Entries.insert, if_neg same, if_neg different]
        exact .cons first induction_hypothesis

end

namespace Layout

open FileAction (IsMade)

/-! ## Paths of a store -/

/-- Whether the path of the longest key is short enough. -/
def HasRoom (layout : Layout) : Prop :=
  layout.root.utf8ByteSize + 142 ≤ Files.maxPathBytes

theorem isEntryName_lock : IsEntryName ".lock" := by
  refine ⟨⟨?_, ?_, ?_⟩, ?_, ?_⟩ <;> decide

theorem isEntryName_version : IsEntryName "version" := by
  refine ⟨⟨?_, ?_, ?_⟩, ?_, ?_⟩ <;> decide

theorem isEntryName_answers : IsEntryName "answers" := by
  refine ⟨⟨?_, ?_, ?_⟩, ?_, ?_⟩ <;> decide

theorem isEntryName_store : IsEntryName "store" := by
  refine ⟨⟨?_, ?_, ?_⟩, ?_, ?_⟩ <;> decide

variable {layout : Layout} {key : String}

theorem answersDirectory_ne_empty (layout : Layout) : layout.answersDirectory ≠ "" :=
  joinPath_ne_empty layout.root isEntryName_answers.isUsable.nonempty

theorem isUsable_entry (room : layout.HasRoom) (usable : IsUsable layout.root) {name : String}
    (is_name : IsEntryName name) (short : name.utf8ByteSize ≤ 7) :
    IsUsable (joinPath layout.root name) := by
  refine isUsable_joinPath usable is_name.no_slash is_name.no_nul ?_
  simp only [HasRoom] at room
  omega

theorem isUsable_answerPath (room : layout.HasRoom) (usable : IsUsable layout.root)
    (valid : validateKey key = .ok ()) : IsUsable (layout.answerPath key) := by
  have is_name := isEntryName_documentName valid
  have around : IsUsable layout.answersDirectory :=
    isUsable_entry room usable isEntryName_answers (by decide)
  have length : layout.answersDirectory.utf8ByteSize ≤ layout.root.utf8ByteSize + 1 + 7 :=
    utf8ByteSize_joinPath_le usable.nonempty isEntryName_answers.no_slash
  have short := (validateKey_eq_ok.mp valid).2.1
  have name_length := utf8ByteSize_documentName key
  refine isUsable_joinPath around is_name.no_slash is_name.no_nul ?_
  simp only [HasRoom] at room
  simp only [maxKeyBytes] at short
  change _ + 1 + (documentName key).utf8ByteSize ≤ _
  omega

/-! ## The directory of a store -/

/-- The directory of a store, with its entries and its documents. -/
structure Holds (layout : Layout) (files : Files) (location : Location)
    (entries documents : List (String × Node)) : Prop where
  room : layout.HasRoom
  is_made : IsMade files (parentPath layout.lockFile)
  leads_to : files.LeadsTo layout.root location
  has_entries : files.HasEntries location entries
  lock : Entries.get? entries ".lock" = some (.file ByteArray.empty)
  version : Entries.get? entries "version" = some (.file versionText.toUTF8)
  answers : Entries.get? entries "answers" = some (.directory documents)

variable {files : Files} {location : Location} {entries documents : List (String × Node)}
  {buckets : Entries Bucket}

theorem Holds.directory (holds : layout.Holds files location entries documents) :
    files.LeadsTo layout.answersDirectory (location.child "answers") ∧
      files.HasEntries (location.child "answers") documents :=
  holds.leads_to.child holds.has_entries isEntryName_answers
    (isUsable_entry holds.room holds.leads_to.usable isEntryName_answers (by decide)) holds.answers

theorem exists?_of_find {path : String} {node : Node} (found : files.find path = .ok node) :
    files.exists? path = true := by
  rw [Files.exists?, found]
  rfl

theorem readText_of_find {path text : String} (found : files.find path = .ok (.file text.toUTF8)) :
    files.readText path = .ok text := by
  simp only [Files.readText, found, ok_bind, fromUTF8?_toUTF8]
  rfl

/-- The version marker that a save writes is in order. -/
theorem verifyVersion_of_marked (found : files.find layout.versionFile =
    .ok (.file versionText.toUTF8)) : layout.verifyVersion files = .ok () := by
  rw [verifyVersion, readText_of_find found, mapError_ok, ok_bind, decode_versionText,
    mapError_ok, ok_bind]
  rfl

theorem document?_of_absent (valid : validateKey key = .ok ())
    (absent : files.exists? (layout.answerPath key) = false) :
    layout.document? files key = .ok none := by
  rw [Layout.document?, valid]
  change (if files.exists? (layout.answerPath key) = true then _ else _) = _
  rw [if_neg (ne_true_of_eq_false absent)]
  rfl

/-- The document of a key is what the text of its file is parsed to. -/
theorem document?_of_find {text : String} (valid : validateKey key = .ok ())
    (found : files.find (layout.answerPath key) = .ok (.file text.toUTF8)) :
    layout.document? files key = (AnswerDocument.parse text).map some := by
  rw [Layout.document?, valid]
  change (if files.exists? (layout.answerPath key) = true then _ else _) = _
  rw [if_pos (exists?_of_find found), readText_of_find found]
  change (AnswerDocument.parse text >>= fun document => pure (some document)) = _
  cases AnswerDocument.parse text <;> rfl

/-- A store whose root is not there has no documents. -/
theorem document?_of_absent_root (nonempty : layout.root ≠ "")
    (absent : (files.find layout.root).toOption = none) (valid : validateKey key = .ok ()) :
    layout.document? files key = .ok none := by
  have no_directory := Files.find_entry_of_absent nonempty isEntryName_answers.no_slash absent
  have no_document : (files.find (layout.answerPath key)).toOption = none :=
    Files.find_entry_of_absent layout.answersDirectory_ne_empty
      (isEntryName_documentName valid).no_slash no_directory
  exact document?_of_absent valid (Files.exists?_eq_false_iff.mpr no_document)

theorem load_of_absent_root (nonempty : layout.root ≠ "")
    (absent : (files.find layout.root).toOption = none) (valid : validateKey key = .ok ()) :
    layout.load files key = .ok [] := by
  rw [load, document?_of_absent_root nonempty absent valid]
  rfl

/-- From the text of a saved document the same answers are loaded if they are reread. -/
theorem load_of_find_iff {now : String} {answers : Bucket} (valid : validateKey key = .ok ())
    (distinct : (Value.object answers).HasDistinctNames)
    (found : files.find (layout.answerPath key) =
      .ok (.file (AnswerDocument.ofAnswers key now answers).toValue.pretty.toUTF8)) :
    layout.load files key = .ok answers ↔ Value.rereadEntries 125 answers = some answers := by
  rw [← AnswerDocument.parse_ofAnswers_eq_ok key now distinct, load, document?_of_find valid found]
  cases parsed : AnswerDocument.parse (AnswerDocument.ofAnswers key now answers).toValue.pretty with
  | error cause =>
      constructor
      · intro impossible
        cases impossible
      · rintro ⟨document, impossible, -⟩
        cases impossible
  | ok document =>
      change Except.ok document.answers = _ ↔ _
      constructor
      · intro same
        cases same
        exact ⟨document, rfl, rfl⟩
      · rintro ⟨_, ⟨⟩, rfl⟩
        rfl

/-- What a store on files finds under a key is what is saved under it. -/
theorem Holds.document? (holds : layout.Holds files location entries documents)
    (related : List.Forall₂ IsDocument buckets documents) (valid : validateKey key = .ok ()) :
    ∃ document, layout.document? files key = .ok document ∧
      document.map AnswerDocument.answers = Entries.get? buckets key := by
  rcases holds.directory with ⟨leads_to, has_entries⟩
  have finds : (files.find (layout.answerPath key)).toOption =
      Entries.get? documents (documentName key) :=
    leads_to.find_entry has_entries (isEntryName_documentName valid)
      (isUsable_answerPath holds.room holds.leads_to.usable valid)
  rcases get?_documents related key with ⟨absent, no_file⟩ | ⟨answers, file, saved, there, document⟩
  · have missing : files.exists? (layout.answerPath key) = false := by
      rw [Files.exists?, finds, no_file]
      rfl
    refine ⟨none, document?_of_absent valid missing, ?_⟩
    rw [absent]
    rfl
  · rcases document.content with ⟨now, rfl⟩
    have found := toOption_eq_some.mp (finds.trans there)
    have parsed := AnswerDocument.parse_ofAnswers key now document.storable.distinct
    rw [document.storable.reread, Option.bind_some, if_pos rfl] at parsed
    refine ⟨some ⟨key, now, answers, some (checksumOf answers)⟩, ?_, ?_⟩
    · rw [document?_of_find valid found, toOption_eq_some.mp parsed]
      rfl
    · rw [saved]
      rfl

end Layout

end NetworkIsolation.Store
