import NetworkIsolation.Digest.Blake3
import NetworkIsolation.Document.Reader
import NetworkIsolation.Store.Error

/-!
# Documents of a store

A document is an envelope around one bucket.  Its checksum is taken of the
compact text of the answers; a document without one was written by hand and is
not checked.
-/

namespace NetworkIsolation.Store

open NetworkIsolation.Document NetworkIsolation.Json

/-- The envelope around one bucket. -/
structure AnswerDocument where
  key : String
  updatedAt : String
  answers : Bucket
  checksum : Option String
  deriving Repr, Inhabited

/-- The checksum of answers. -/
def checksumOf (answers : Bucket) : String :=
  Digest.Blake3.hexDigest (Value.object answers).compact.toUTF8.toList

namespace AnswerDocument

/-- A document as a record. -/
def record : Record AnswerDocument where
  name := "AnswerDocument"
  fields := [
    .need "key" .string fun key document => { document with key },
    .need "updated_at" .string fun updatedAt document => { document with updatedAt },
    .need "answers" .bucket fun answers document => { document with answers },
    .allow "checksum" (.nullable .string) fun checksum document => { document with checksum }]
  strict := false
  start := ⟨"", "", [], none⟩

/-- A document as an object; there is no entry for a checksum that is not there. -/
def toValue (document : AnswerDocument) : Value :=
  let checksum : List (String × Value) :=
    match document.checksum with
    | some text => [("checksum", .string text)]
    | none => []
  .object ([
    ("key", .string document.key),
    ("updated_at", .string document.updatedAt),
    ("answers", .object document.answers)] ++ checksum)

/-- The document that a save writes. -/
def ofAnswers (key now : String) (answers : Bucket) : AnswerDocument :=
  ⟨key, now, answers, some (checksumOf answers)⟩

/-- Check the answers against the checksum, if there is one. -/
def verify (document : AnswerDocument) : Except StoreError Unit :=
  match document.checksum with
  | none => .ok ()
  | some expected =>
    let actual := checksumOf document.answers
    if actual = expected then .ok () else .error (.integrity document.key expected actual)

/-- Read a document and check it. -/
def parse (text : String) : Except StoreError AnswerDocument := do
  let document ← (record.reader.decode text).mapError .malformed
  document.verify
  return document

end AnswerDocument

/-- The version marker as a record. -/
def versionRecord : Record Nat where
  name := "StoreVersion"
  fields := [.need "format_version" .word fun version _ => version]
  strict := false
  start := 0

/-- The text of the version marker. -/
def versionText : String :=
  (Value.object [("format_version", .nat formatVersion)]).pretty

end NetworkIsolation.Store
