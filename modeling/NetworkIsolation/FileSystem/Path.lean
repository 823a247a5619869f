import NetworkIsolation.Text.Blank

/-!
# Paths

A path is a text in which slashes separate the components.  One that begins
with a slash is absolute.
-/

namespace NetworkIsolation.FileSystem

open NetworkIsolation.Text

/-- Whether the path is absolute. -/
def isAbsolute (path : String) : Bool :=
  path.startsWith "/"

/-- A path below another one; an absolute path stands for itself. -/
def joinPath (base path : String) : String :=
  if isAbsolute path || base.isEmpty then path
  else if base.endsWith "/" then base ++ path
  else base ++ "/" ++ path

/-- The pieces between the slashes, empty ones included. -/
def pathPieces (path : String) : List String :=
  (splitAt '/' path.toList).map String.ofList

/-- Whether a piece names nothing of its own. -/
def isNeutral (piece : String) : Bool :=
  piece = "" || piece = "."

/-- The path around the last component of a path; it is empty for the first component. -/
def parentPath (path : String) : String :=
  let around := (((pathPieces path).reverse.dropWhile isNeutral).drop 1).dropWhile isNeutral
  if around.isEmpty && isAbsolute path then "/" else "/".intercalate around.reverse

/-- The paths that end with a name, from pieces that are listed from the last one on. -/
def pathsOfReversed : List String → List String
  | [] => []
  | piece :: outer =>
    if isNeutral piece then pathsOfReversed outer
    else "/".intercalate (piece :: outer).reverse :: pathsOfReversed outer

/-- A path and the paths of the directories around it, from the inside out. -/
def enclosingPaths (path : String) : List String :=
  match pathsOfReversed (pathPieces path).reverse with
  | [] => []
  | _ :: around => path :: around

end NetworkIsolation.FileSystem
