import NetworkIsolation.Proofs.Document.Invariants
import NetworkIsolation.Proofs.Document.Reading
import NetworkIsolation.Store.Document

/-!
# Documents that are read back

The text of a saved document decodes to the document with its answers as they
are reread.  The answers stand within two brackets there, the envelope's and
their own, so there is room for 125 more.  If the answers come back as they
were, so does the checksum, whatever it is a function of.
-/

namespace NetworkIsolation.Store

open NetworkIsolation.Document NetworkIsolation.Json

/-- A text is decoded from its bytes. -/
theorem fromUTF8?_toUTF8 (text : String) : String.fromUTF8? text.toUTF8 = some text := by
  rw [String.fromUTF8?, String.toUTF8_eq_toByteArray, dif_pos text.isValidUTF8]
  rfl

/-- The version marker that is written has the version that is expected. -/
theorem decode_versionText : versionRecord.reader.decode versionText = .ok formatVersion := by
  have fields : ∀ name value, (name, value) ∈ [("format_version", Value.nat formatVersion)] →
      ∃ field, versionRecord.field? name = some field ∧
        field.change.ReadsBack 126 value (some fun _ => formatVersion) := by
    intro name value member
    cases List.mem_singleton.mp member
    have printed : Reader.word.ReadsBack 126 (.nat formatVersion) (some formatVersion) :=
      Reader.word_readsBack 126 (by decide)
    have reads := printed.map fun version (_ : Nat) => version
    exact ⟨_, rfl, reads⟩
  exact toOption_eq_some.mp (Record.decode_pretty fields)

namespace AnswerDocument

/-- What an entry of a saved document does to the document that is being read. -/
def expectedField (name : String) (value : Value) : Option (AnswerDocument → AnswerDocument) :=
  match name, value with
  | "key", .string key => some fun document => { document with key }
  | "updated_at", .string updatedAt => some fun document => { document with updatedAt }
  | "answers", .object answers =>
    (Value.rereadEntries 125 answers).map fun found document => { document with answers := found }
  | "checksum", .string text => some fun document => { document with checksum := some text }
  | _, _ => none

/-- The entries of a saved document behind its key. -/
def savedEntries (now : String) (answers : Bucket) : List (String × Value) :=
  [("updated_at", .string now), ("answers", .object answers),
    ("checksum", .string (checksumOf answers))]

theorem fields_readBack (key now : String) {answers : Bucket}
    (distinct : (Value.object answers).HasDistinctNames) :
    ∀ name value, (name, value) ∈ ("key", .string key) :: savedEntries now answers →
      ∃ field, record.field? name = some field ∧
        field.change.ReadsBack 126 value (expectedField name value) := by
  intro name value member
  simp only [savedEntries, List.mem_cons, List.not_mem_nil, or_false] at member
  rcases member with same | same | same | same
  · cases same
    have reads := (Reader.string_readsBack 126 key).map fun key (document : AnswerDocument) =>
      { document with key }
    exact ⟨_, rfl, reads⟩
  · cases same
    have reads := (Reader.string_readsBack 126 now).map fun updatedAt (document : AnswerDocument) =>
      { document with updatedAt }
    exact ⟨_, rfl, reads⟩
  · cases same
    have printed : Reader.bucket.ReadsBack 126 (.object answers)
        (Value.rereadEntries 125 answers) := Reader.bucket_readsBack distinct
    have reads := printed.map fun answers (document : AnswerDocument) =>
      { document with answers }
    exact ⟨_, rfl, reads⟩
  · cases same
    have printed := Reader.nullable_readsBack (Reader.string_readsBack 126 (checksumOf answers))
      fun _ => ⟨'"', _, rfl, by decide⟩
    have reads := printed.map fun checksum (document : AnswerDocument) =>
      { document with checksum }
    exact ⟨_, rfl, reads⟩

/-- A saved document is decoded with its answers as they are reread. -/
theorem decode_ofAnswers (key now : String) {answers : Bucket}
    (distinct : (Value.object answers).HasDistinctNames) :
    (record.reader.decode (ofAnswers key now answers).toValue.pretty).toOption =
      (Value.rereadEntries 125 answers).map fun found =>
        ⟨key, now, found, some (checksumOf answers)⟩ := by
  have decoded := Record.decode_pretty (fields_readBack key now distinct)
  have text : (ofAnswers key now answers).toValue =
      .object (("key", .string key) :: savedEntries now answers) := rfl
  rw [text, decoded]
  simp only [savedEntries, List.foldlM_cons, List.foldlM_nil, Record.expectedEntry, expectedField]
  cases Value.rereadEntries 125 answers with
  | none => rfl
  | some found => rfl

/--
A saved document is parsed if its answers come back with the checksum they were
saved with.
-/
theorem parse_ofAnswers (key now : String) {answers : Bucket}
    (distinct : (Value.object answers).HasDistinctNames) :
    (parse (ofAnswers key now answers).toValue.pretty).toOption =
      (Value.rereadEntries 125 answers).bind fun found =>
        if checksumOf found = checksumOf answers then
          some ⟨key, now, found, some (checksumOf answers)⟩
        else none := by
  have decoded := decode_ofAnswers key now distinct
  rw [parse, toOption_bind, toOption_mapError, decoded]
  cases Value.rereadEntries 125 answers with
  | none => rfl
  | some found =>
      simp only [Option.map_some, Option.bind_some, toOption_bind, verify, toOption_ite]
      split <;> rfl

/-- The same answers are parsed exactly if they are reread as they were. -/
theorem parse_ofAnswers_eq_ok (key now : String) {answers : Bucket}
    (distinct : (Value.object answers).HasDistinctNames) :
    (∃ document, parse (ofAnswers key now answers).toValue.pretty = .ok document ∧
      document.answers = answers) ↔ Value.rereadEntries 125 answers = some answers := by
  have parsed := parse_ofAnswers key now distinct
  constructor
  · rintro ⟨document, read, same⟩
    rw [read, toOption_ok] at parsed
    cases reread : Value.rereadEntries 125 answers with
    | none =>
        rw [reread] at parsed
        cases parsed
    | some found =>
        rw [reread, Option.bind_some] at parsed
        split at parsed
        · cases parsed
          rw [← same]
        · cases parsed
  · intro reread
    rw [reread, Option.bind_some, if_pos rfl] at parsed
    exact ⟨_, toOption_eq_some.mp parsed, rfl⟩

/-- What every bucket has that is read, and the empty one, the answers have that are decoded. -/
theorem answers_of_decode {holds : Bucket → Prop} (empty : holds [])
    (every : ∀ {room : Nat} {part rest : List Char} {entries : Bucket},
      Reader.bucket.ofText room part = .ok (entries, rest) → holds entries)
    {text : String} {document : AnswerDocument}
    (decoded : record.reader.decode text = .ok document) : holds document.answers := by
  have fields_keep : record.FieldsKeep fun document => holds document.answers := by
    intro field member room part change rest read document kept
    simp only [record, List.mem_cons, List.not_mem_nil, or_false] at member
    rcases member with rfl | rfl | rfl | rfl <;>
      simp only [Field.need, Field.allow, Reader.map_ofText_eq_ok] at read <;>
      rcases read with ⟨found, found_read, rfl⟩
    · exact kept
    · exact kept
    · exact every found_read
    · exact kept
  have kept := Record.invariant_of_decode fields_keep empty decoded
  exact kept

end AnswerDocument

end NetworkIsolation.Store
