import NetworkIsolation.Store.File

/-!
# Integrity of a store

Every document is read and checked.  The report counts those that pass and
lists the keys of those that do not, with the reason.
-/

namespace NetworkIsolation.Store

open NetworkIsolation.FileSystem

/-- Why a document does not pass. -/
inductive IntegrityFault where
  | checksum (actual : String)
  | unreadable (cause : StoreError)
  deriving DecidableEq, Repr

/-- The words for a document that does not pass. -/
def IntegrityFault.message : IntegrityFault → String
  | .checksum actual => "checksum mismatch: got " ++ actual
  | .unreadable cause => "read error: " ++ cause.message

/-- What checking every document showed. -/
structure IntegrityReport where
  checked : Nat
  passed : Nat
  failed : List (String × IntegrityFault)
  deriving DecidableEq, Repr

/-- What is wrong with the document of a key, if anything is. -/
def integrityFault? (layout : Layout) (files : Files) (key : String) : Option IntegrityFault :=
  match layout.document? files key with
  | .ok _ => none
  | .error (.integrity _ _ actual) => some (.checksum actual)
  | .error cause => some (.unreadable cause)

/-- Check the document of every key. -/
def verifyIntegrity (layout : Layout) (files : Files) : Except StoreError IntegrityReport := do
  let keys ← layout.keys files
  let passed := keys.filter fun key => (integrityFault? layout files key).isNone
  let failed := keys.filterMap fun key =>
    (integrityFault? layout files key).map fun fault => (key, fault)
  return ⟨keys.length, passed.length, failed⟩

end NetworkIsolation.Store
