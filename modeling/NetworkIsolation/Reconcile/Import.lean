import NetworkIsolation.Backend.State
import NetworkIsolation.Configuration.Answers
import NetworkIsolation.Store.Access

/-!
# Importing an isolation document

A document that was made elsewhere is saved as it stands if it is well formed
and asks for isolation.  One that is missing, malformed or does not ask for
isolation is no error; only a failed save is.
-/

namespace NetworkIsolation.Reconcile

open NetworkIsolation.Backend NetworkIsolation.Configuration NetworkIsolation.FileSystem
open NetworkIsolation.Json NetworkIsolation.Store

/-- Where messages for the operator go. -/
structure Console (σ : Type) where
  success : String → StateM σ Unit
  error : String → StateM σ Unit

/-- How the text of a file is read. -/
abbrev TextSource (σ : Type) := String → StateM σ (Except SystemError String)

/-- What is said when a document has been imported. -/
def importedMessage : String := "Imported network isolation config into answers."

/-- What is said about a document that cannot be used. -/
def invalidMessage (reason : String) : String := "Invalid network-isolation.json: " ++ reason

variable {σ : Type} [Journal σ]

/-- Save an accepted document. -/
def saveImport (store : AnswerStore σ) (console : Console σ) (path : String) (document : Bucket) :
    StateM σ (Except StoreError Bucket) := do
  match ← store.save isolationKey (isolationBucket document) with
  | .error error => return .error error
  | .ok () =>
    note .imports .info ("imported " ++ path ++ " into '" ++ isolationKey ++ "'")
    console.success importedMessage
    return .ok document

/-- Import the document at a path, and give it back; nothing imported is an empty document. -/
def importDocument (source : TextSource σ) (store : AnswerStore σ) (console : Console σ)
    (path : String) : StateM σ (Except StoreError Bucket) := do
  match ← source path with
  | .error cause =>
    if cause = .notFound then
      note .imports .debug ("no isolation document at " ++ path)
    else
      console.error (invalidMessage cause.message)
    return .ok []
  | .ok text =>
    match parseImport text with
    | .error error =>
      console.error (invalidMessage error.message)
      return .ok []
    | .ok document =>
      if importEnabled document then
        saveImport store console path document
      else
        note .imports .debug (path ++ " does not enable isolation, not importing")
        return .ok []

end NetworkIsolation.Reconcile
