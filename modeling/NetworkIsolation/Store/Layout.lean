import NetworkIsolation.FileSystem.Path

/-!
# The layout of a store

Everything is below one directory: the version marker, the lock file, and a
directory with one document for each key.
-/

namespace NetworkIsolation.Store

open NetworkIsolation.FileSystem

/-- The directory of a store. -/
structure Layout where
  root : String
  deriving DecidableEq, Repr

namespace Layout

/-- The directory of the documents. -/
def answersDirectory (layout : Layout) : String :=
  joinPath layout.root "answers"

/-- The document of a key. -/
def answerPath (layout : Layout) (key : String) : String :=
  joinPath layout.answersDirectory (key ++ ".json")

/-- The lock file. -/
def lockFile (layout : Layout) : String :=
  joinPath layout.root ".lock"

/-- The version marker. -/
def versionFile (layout : Layout) : String :=
  joinPath layout.root "version"

end Layout

end NetworkIsolation.Store
