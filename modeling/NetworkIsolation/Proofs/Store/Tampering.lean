import NetworkIsolation.Proofs.Json.Compact
import NetworkIsolation.Proofs.Store.Saving

/-!
# Documents that were altered

The checksum of a document is taken of the compact text of the answers that are decoded,
and not of the text of the file.  So a file may be rewritten in any way that keeps the
answers.  If it is rewritten in any other way and the checksum is left alone, then the
answers are not loaded: two buckets with the same compact text are the same.

This takes it for granted that the digest does not confuse the two texts.  That numbers
are not confused needs no such trust, since what is decoded holds whole numbers and
doubles only.
-/

namespace NetworkIsolation.Store

open NetworkIsolation.Document NetworkIsolation.FileSystem NetworkIsolation.Json

/-- Two texts have the same digest only if they are the same. -/
def NoCollision (first second : String) : Prop :=
  Digest.Blake3.hexDigest first.toUTF8.toList = Digest.Blake3.hexDigest second.toUTF8.toList →
    first = second

/-- Answers with the same checksum are the same, up to collisions and numbers that look alike. -/
theorem eq_of_checksumOf_eq {first second : Bucket}
    (no_collision : NoCollision (Value.object first).compact (Value.object second).compact)
    (told : Value.NumbersAreTold (Value.object first).numbers (Value.object second).numbers)
    (same : checksumOf first = checksumOf second) : first = second := by
  have same_value : Value.object first = Value.object second :=
    Value.eq_of_compact_eq told (no_collision same)
  cases same_value
  rfl

/-- Whether the numbers of the answers are whole numbers in the range, or doubles. -/
def AnswerDocument.HasKeptNumbers (document : AnswerDocument) : Prop :=
  ∀ number ∈ (Value.object document.answers).numbers, number.IsKept

theorem AnswerDocument.hasKeptNumbers_of_decode {text : String} {document : AnswerDocument}
    (decoded : record.reader.decode text = .ok document) : document.HasKeptNumbers := by
  refine answers_of_decode ?_ (fun read => (Reader.wasRead_of_bucket read).kept) decoded
  intro number impossible
  cases impossible

/--
The numbers of a document that decodes are told from those that were saved.  Of these it is
asked only that a document can have them.
-/
theorem AnswerDocument.numbersAreTold_of_decode {text : String}
    {document saved : AnswerDocument} (decoded : record.reader.decode text = .ok document)
    (kept : saved.HasKeptNumbers) :
    Value.NumbersAreTold (Value.object document.answers).numbers
      (Value.object saved.answers).numbers :=
  Value.numbersAreTold_of_isKept (hasKeptNumbers_of_decode decoded) kept

namespace Layout

variable {layout : Layout} {now : Moment} {key text : String} {answers : Bucket}
  {files made later : Files} {document : AnswerDocument}

/-- Only valid keys are saved. -/
theorem validateKey_of_save (saved : (layout.save now key answers).run files = (.ok (), made)) :
    validateKey key = .ok () := by
  rcases ok_of_run_bind saved with ⟨_, checked, validates, -⟩
  exact ok_of_run_checkFiles validates

/-- What is loaded of a document that decodes and carries a checksum. -/
theorem load_of_decoded {checksum : String} (valid : validateKey key = .ok ())
    (found : later.find (layout.answerPath key) = .ok (.file text.toUTF8))
    (decoded : AnswerDocument.record.reader.decode text = .ok document)
    (carries : document.checksum = some checksum) :
    layout.load later key =
      if checksumOf document.answers = checksum then .ok document.answers
      else .error (.integrity document.key checksum (checksumOf document.answers)) := by
  have parsed : AnswerDocument.parse text = document.verify >>= fun _ => pure document := by
    rw [AnswerDocument.parse, decoded]
    rfl
  rw [load, document?_of_find valid found, parsed, AnswerDocument.verify, carries]
  simp only
  split <;> rfl

/--
Answers are saved under a key, and later the file of the key holds any text that decodes to
an envelope with the checksum that was saved.  Then the answers of that envelope are the
ones that were saved and they are loaded, or loading fails and names both checksums.
-/
theorem load_of_altered_document
    (saved : (layout.save now key answers).run files = (.ok (), made))
    (found : later.find (layout.answerPath key) = .ok (.file text.toUTF8))
    (decoded : AnswerDocument.record.reader.decode text = .ok document)
    (carries : document.checksum = (AnswerDocument.ofAnswers key now.time answers).checksum)
    (no_collision :
      NoCollision (Value.object document.answers).compact (Value.object answers).compact)
    (told : Value.NumbersAreTold (Value.object document.answers).numbers
      (Value.object answers).numbers) :
    (document.answers = answers ∧ layout.load later key = .ok answers) ∨
      (document.answers ≠ answers ∧ layout.load later key = .error
        (.integrity document.key (checksumOf answers) (checksumOf document.answers))) := by
  rw [load_of_decoded (validateKey_of_save saved) found decoded carries]
  by_cases same : checksumOf document.answers = checksumOf answers
  · have kept := eq_of_checksumOf_eq no_collision told same
    rw [if_pos same]
    exact Or.inl ⟨kept, congrArg Except.ok kept⟩
  · have altered : document.answers ≠ answers := fun kept => same (congrArg checksumOf kept)
    rw [if_neg same]
    exact Or.inr ⟨altered, rfl⟩

/-- After a save in a new directory, the file of the key can be put in place with any content. -/
theorem IsFresh.exists_altered (fresh : layout.IsFresh files made)
    (valid : validateKey key = .ok ()) (now : Moment) (answers : Bucket) (content : ByteArray) :
    ∃ saved later, (layout.save now key answers).run files = (.ok (), saved) ∧
      saved.putFile (layout.answerPath key) content = .ok later := by
  rcases fresh.run_save valid now answers with ⟨saved, location, entries, saves, holds⟩
  rcases holds.directory with ⟨leads_to, has_entries⟩
  have put := leads_to.putFile_entry has_entries (isEntryName_documentName valid)
    (isUsable_answerPath holds.room holds.leads_to.usable valid) (fun inner found => by
      rw [Entries.get?, if_pos rfl] at found
      cases found) content
  exact ⟨saved, _, saves, put⟩

/-- A number is changed in the file and the checksum is left alone. -/
theorem load_of_document_with_other_number :
    let layout : Layout := ⟨"store"⟩
    let answers : Bucket := [("racks", .nat 3)]
    let altered : AnswerDocument :=
      ⟨"spaces", "first", [("racks", .nat 4)], some (checksumOf answers)⟩
    ∃ saved later document,
      (layout.save (.ofTime "first") "spaces" answers).run Files.none = (.ok (), saved) ∧
      saved.putFile (layout.answerPath "spaces") altered.toValue.pretty.toUTF8 = .ok later ∧
      AnswerDocument.record.reader.decode altered.toValue.pretty = .ok document ∧
      document.answers ≠ answers ∧ layout.load later "spaces" = .error
        (.integrity document.key (checksumOf answers) (checksumOf document.answers)) := by
  intro layout answers altered
  have is_name : IsEntryName "store" := by
    refine ⟨⟨?_, ?_, ?_⟩, ?_, ?_⟩ <;> decide
  have room : layout.HasRoom := by
    change 5 + 142 ≤ 4095
    decide
  have valid : validateKey "spaces" = .ok () := by decide +kernel
  rcases FileAction.isOpenWay_name Files.none is_name rfl with ⟨way, absent⟩
  rcases exists_isFresh room way absent with ⟨made, fresh⟩
  rcases fresh.exists_altered valid (.ofTime "first") answers altered.toValue.pretty.toUTF8 with
    ⟨saved, later, saves, put⟩
  have decodes : (AnswerDocument.record.reader.decode altered.toValue.pretty).toOption.map
      (fun document => (document.checksum, (Value.object document.answers).compact)) =
        some (some (checksumOf answers), "\x7b\"racks\":4\x7d") := by
    decide +kernel
  rcases Option.map_eq_some_iff.mp decodes with ⟨document, decoded, fields⟩
  have decoded := toOption_eq_some.mp decoded
  have carries := congrArg Prod.fst fields
  have compact : (Value.object document.answers).compact = "\x7b\"racks\":4\x7d" :=
    congrArg Prod.snd fields
  have differs : (Value.object document.answers).compact ≠ (Value.object answers).compact := by
    rw [compact]
    decide +kernel
  have no_collision :
      NoCollision (Value.object document.answers).compact (Value.object answers).compact := by
    intro same
    rw [compact] at same
    exact absurd same (by decide +kernel)
  have kept : (AnswerDocument.ofAnswers "spaces" "first" answers).HasKeptNumbers := by
    intro number member
    cases List.mem_singleton.mp member
    exact ⟨by decide, by decide⟩
  have told := AnswerDocument.numbersAreTold_of_decode decoded kept
  refine ⟨saved, later, document, saves, put, decoded, ?_⟩
  rcases load_of_altered_document saves (Files.find_of_putFile put) decoded carries no_collision
    told with ⟨same, -⟩ | altered
  · rw [same] at differs
    exact absurd rfl differs
  · exact altered

end Layout

end NetworkIsolation.Store
