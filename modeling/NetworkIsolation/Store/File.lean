import NetworkIsolation.FileSystem.Temporary
import NetworkIsolation.Store.Document
import NetworkIsolation.Store.Key
import NetworkIsolation.Store.Layout

/-!
# Stores on files

One document for each key below a directory.  Loading checks the document, and
a key that was never saved has an empty bucket.  Saving takes the lock, makes
the directories and the version marker unless they are there, and replaces the
document as a whole, by way of a temporary file beside it.

Reading is a function of the files.  Saving is an action on them: it may make
the lock file and the directories before it fails.
-/

namespace NetworkIsolation.Store

open NetworkIsolation.FileSystem NetworkIsolation.Json NetworkIsolation.Text

namespace Layout

/-! ## Reading -/

/-- Whether the store has a version marker. -/
def isInitialized (layout : Layout) (files : Files) : Bool :=
  files.exists? layout.versionFile

/-- Check the version marker. -/
def verifyVersion (layout : Layout) (files : Files) : Except StoreError Unit := do
  let text ← (files.readText layout.versionFile).mapError .system
  let version ← (versionRecord.reader.decode text).mapError .malformed
  if version = formatVersion then return () else throw (.versionMismatch version)

/-- The document of a key, checked; there is none when there is no file. -/
def document? (layout : Layout) (files : Files) (key : String) :
    Except StoreError (Option AnswerDocument) := do
  validateKey key
  let path := layout.answerPath key
  if files.exists? path then
    let text ← (files.readText path).mapError .system
    let document ← AnswerDocument.parse text
    return some document
  else
    return none

/-- The answers of a key; those of a key that was never saved are empty. -/
def load (layout : Layout) (files : Files) (key : String) : Except StoreError Bucket := do
  let document ← layout.document? files key
  return (document.map AnswerDocument.answers).getD []

/-- The key of a file name in the directory of the documents. -/
def keyOfFile? (name : String) : Option String :=
  if name.endsWith ".json" then
    let key := String.ofList (name.toList.take (name.length - 5))
    if isKey key then some key else none
  else
    none

/-- The names of the files that are not hidden; a name without a text counts as empty. -/
def visibleNames (entries : List (String × Node)) : List String :=
  let names := (entries.filter fun entry => entry.2.isFile).map fun entry =>
    (nameText? entry.1).getD ""
  names.filter fun name => !name.startsWith "."

/-- The names of the files in the directory of the documents that are not hidden. -/
def visibleFiles (layout : Layout) (files : Files) : Except StoreError (List String) :=
  let directory := layout.answersDirectory
  if files.exists? directory then do
    let entries ← (files.listDirectory directory).mapError .system
    return visibleNames entries
  else
    return []

/-- The keys of the documents, in order. -/
def keys (layout : Layout) (files : Files) : Except StoreError (List String) := do
  let names ← layout.visibleFiles files
  return (names.filterMap keyOfFile?).mergeSort fun first second => first ≤ second

/-- The visible files in the directory of the documents that belong to no key. -/
def strayFiles (layout : Layout) (files : Files) : List String :=
  match layout.visibleFiles files with
  | .ok names => names.filter fun name => (keyOfFile? name).isNone
  | .error _ => []

end Layout

/-! ## Saving -/

/-- What a save takes from its surroundings. -/
structure Moment where
  time : String
  names : TemporaryNames
  deriving Inhabited

/-- A time, and the usual names for temporary files. -/
def Moment.ofTime (time : String) : Moment :=
  ⟨time, .usual⟩

/-- An operation that may change files and may fail. -/
abbrev StoreAction := ExceptT StoreError (StateM Files)

/-- Run an operation on files. -/
def onFiles (action : FileAction Unit) : StoreAction Unit :=
  action.adapt .system

/-- Run a check on files. -/
def checkFiles {α : Type} (check : Files → Except StoreError α) : StoreAction α := do
  match check (← get) with
  | .ok value => return value
  | .error cause => throw cause

namespace Layout

/-- Open the lock file, which is made if it is not there. -/
def openLock (layout : Layout) : StoreAction Unit := do
  onFiles (.createDirectories (parentPath layout.lockFile))
  onFiles (.whole fun files => files.openFile layout.lockFile)

/-- Make the directory of the documents, and make or check the version marker. -/
def prepare (layout : Layout) (names : TemporaryNames) : StoreAction Unit := do
  onFiles (.createDirectories layout.answersDirectory)
  if layout.isInitialized (← get) then
    checkFiles layout.verifyVersion
  else
    onFiles (.replaceFile names layout.root layout.versionFile versionText.toUTF8)
    onFiles (.settle layout.root)

/-- Save the answers of a key, with the time of the save. -/
def save (layout : Layout) (now : Moment) (key : String) (answers : Bucket) :
    StoreAction Unit := do
  checkFiles fun _ => validateKey key
  layout.openLock
  layout.prepare now.names
  let text := (AnswerDocument.ofAnswers key now.time answers).toValue.pretty
  onFiles (.replaceFile now.names layout.answersDirectory (layout.answerPath key) text.toUTF8)
  onFiles (.settle layout.answersDirectory)

end Layout

end NetworkIsolation.Store
