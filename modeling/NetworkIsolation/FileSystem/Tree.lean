import NetworkIsolation.Entries
import NetworkIsolation.FileSystem.Path
import NetworkIsolation.FileSystem.SystemError

/-!
# Trees of files

Files and directories form a tree: a directory has named entries, and a file
has bytes.  A program works in one tree, its working directory, and absolute
paths lead into another.  Every operation says what it needs and fails with the
error of the operating system otherwise.

A name is a sequence of bytes.  One that is not UTF-8 stands among the entries
as a text with a NUL, which no other name has: no path leads to it, as a path
with a NUL is refused, and `nameText?` gives no text for it.  Symbolic links
and special files are left out: an entry is a file or a directory, and none
stands for what is somewhere else.
-/

namespace NetworkIsolation.FileSystem

/-- A file with its bytes, or a directory with its entries. -/
inductive Node where
  | file (content : ByteArray)
  | directory (entries : List (String × Node))
  deriving Inhabited

namespace Node

/-- The node that a list of names leads to. -/
def descend : Node → List String → Option Node
  | node, [] => some node
  | .file _, _ :: _ => none
  | .directory entries, name :: names =>
    match Entries.get? entries name with
    | some node => node.descend names
    | none => none

/-- Put a node where a list of names leads; the directories on the way must be there. -/
def put (new : Node) : List String → Node → Node
  | [], _ => new
  | _ :: _, .file content => .file content
  | [name], .directory entries => .directory (Entries.insert entries name new)
  | name :: names, .directory entries =>
    match Entries.get? entries name with
    | some node => .directory (Entries.insert entries name (put new names node))
    | none => .directory entries

/-- Take away what a list of names leads to. -/
def erase : List String → Node → Node
  | [], node => node
  | _ :: _, .file content => .file content
  | [name], .directory entries => .directory (entries.filter fun entry => entry.1 ≠ name)
  | name :: names, .directory entries =>
    match Entries.get? entries name with
    | some node => .directory (Entries.insert entries name (erase names node))
    | none => .directory entries

/-- Whether the node is a file. -/
def isFile : Node → Bool
  | .file _ => true
  | .directory _ => false

mutual

/-- The paths of everything below a node, directories with a slash behind. -/
def paths (base : String) : Node → List String
  | .file _ => []
  | .directory entries => entryPaths base entries

/-- The paths of the entries of a directory and of everything below them. -/
def entryPaths (base : String) : List (String × Node) → List String
  | [] => []
  | (name, .file _) :: rest => (base ++ name) :: entryPaths base rest
  | (name, .directory entries) :: rest =>
    (base ++ name ++ "/") :: (entryPaths (base ++ name ++ "/") entries ++ entryPaths base rest)

end

end Node

/-- The text of a name; one that is not UTF-8 has none. -/
def nameText? (name : String) : Option String :=
  if '\x00' ∈ name.toList then none else some name

/-- A place in one of the two trees. -/
structure Location where
  absolute : Bool
  names : List String
  deriving DecidableEq, Repr

namespace Location

/-- The place one name further down. -/
def child (location : Location) (name : String) : Location :=
  { location with names := location.names ++ [name] }

end Location

/-- The files that a program sees. -/
structure Files where
  /-- The entries of the working directory. -/
  working : List (String × Node)
  /-- The entries of the root directory. -/
  root : List (String × Node)
  deriving Inhabited

namespace Files

/-- No files at all. -/
def none : Files := ⟨[], []⟩

/-- The entries of the directory in which relative or absolute paths begin. -/
def entriesOf (files : Files) (absolute : Bool) : List (String × Node) :=
  if absolute then files.root else files.working

/-- What is at a place. -/
def node? (files : Files) (location : Location) : Option Node :=
  (Node.directory (files.entriesOf location.absolute)).descend location.names

/-- Change one of the two trees. -/
def modifyTree (files : Files) (absolute : Bool) (change : Node → Node) : Files :=
  let entries : Node → List (String × Node)
    | .directory entries => entries
    | .file _ => []
  if absolute then { files with root := entries (change (.directory files.root)) }
  else { files with working := entries (change (.directory files.working)) }

/-- Put a node at a place whose directory is there. -/
def putNode (files : Files) (location : Location) (node : Node) : Files :=
  files.modifyTree location.absolute (Node.put node location.names)

/-- Take away what is at a place. -/
def eraseNode (files : Files) (location : Location) : Files :=
  files.modifyTree location.absolute (Node.erase location.names)

/-- The longest name of a file in bytes. -/
def maxNameBytes : Nat := 255

/-- The longest path in bytes. -/
def maxPathBytes : Nat := 4095

/--
Follow the pieces of a path from a node, `above` being the names passed so far
with the directories they were looked up in, the last one first.  Only the last
piece may be missing.  An empty piece stays where it is, as a dot does, but only
at a directory.
-/
def follow : List (String × Node) → Node → List String →
    Except SystemError (List String × Option Node)
  | above, node, [] => .ok (above.reverse.map Prod.fst, some node)
  | _, .file _, _ :: _ => .error .notDirectory
  | above, .directory entries, piece :: pieces =>
    if piece = "" || piece = "." then follow above (.directory entries) pieces
    else if piece = ".." then
      match above with
      | [] => follow [] (.directory entries) pieces
      | (_, outer) :: above => follow above outer pieces
    else if maxNameBytes < piece.utf8ByteSize then .error .nameTooLong
    else
      match Entries.get? entries piece with
      | some node => follow ((piece, .directory entries) :: above) node pieces
      | Option.none =>
        if pieces.isEmpty then .ok (above.reverse.map Prod.fst ++ [piece], Option.none)
        else .error .notFound

/-- Follow pieces from where a path begins, if the path may be followed at all. -/
def followPath (files : Files) (path : String) (pieces : List String) :
    Except SystemError (Location × Option Node) :=
  if path.contains '\x00' then .error .nulInPath
  else if path.isEmpty then .error .notFound
  else if maxPathBytes < path.utf8ByteSize then .error .nameTooLong
  else do
    let (names, node) ← follow [] (.directory (files.entriesOf (isAbsolute path))) pieces
    return (⟨isAbsolute path, names⟩, node)

/-- The place a path leads to, and what is there; only the last component may be missing. -/
def resolve (files : Files) (path : String) : Except SystemError (Location × Option Node) :=
  files.followPath path (pathPieces path)

/-- What a path leads to. -/
def find (files : Files) (path : String) : Except SystemError Node := do
  match ← files.resolve path with
  | (_, some node) => return node
  | (_, Option.none) => throw .notFound

/-- Whether anything is there. -/
def exists? (files : Files) (path : String) : Bool :=
  (files.find path).toOption.isSome

/-- Whether a file is there. -/
def isFile (files : Files) (path : String) : Bool :=
  ((files.find path).toOption.map Node.isFile).getD false

/-- Whether a directory is there. -/
def isDirectory (files : Files) (path : String) : Bool :=
  ((files.find path).toOption.map fun node => !node.isFile).getD false

/-- The text of a file. -/
def readText (files : Files) (path : String) : Except SystemError String := do
  match ← files.find path with
  | .directory _ => throw .isDirectory
  | .file content =>
    match String.fromUTF8? content with
    | some text => return text
    | Option.none => throw .notUtf8

/-- The entries of a directory, each name once. -/
def listDirectory (files : Files) (path : String) : Except SystemError (List (String × Node)) := do
  match ← files.find path with
  | .directory entries => return Entries.firsts entries
  | .file _ => throw .notDirectory

/-! ## Changes -/

/-- Make one directory: the one around it must be there, and its own name must be free. -/
def makeDirectory (files : Files) (path : String) : Except SystemError Files :=
  match (pathPieces path).reverse.dropWhile (· = "") with
  | [] => .error (if path.isEmpty then .notFound else .alreadyExists)
  | name :: outer => do
    let (around, _) ← files.followPath path (outer.reverse ++ [""])
    if name = "." || name = ".." then throw .alreadyExists
    else if maxNameBytes < name.utf8ByteSize then throw .nameTooLong
    else if (files.node? (around.child name)).isSome then throw .alreadyExists
    else return files.putNode (around.child name) (.directory [])

/-- Put a file in the place of one that may be there; a directory is not replaced. -/
def putFile (files : Files) (path : String) (content : ByteArray) : Except SystemError Files := do
  match ← files.resolve path with
  | (_, some (.directory _)) => throw .isDirectory
  | (location, _) => return files.putNode location (.file content)

/-- Open a file for writing without changing it; an absent one is made. -/
def openFile (files : Files) (path : String) : Except SystemError Files := do
  match ← files.resolve path with
  | (_, some (.directory _)) => throw .isDirectory
  | (_, some (.file _)) => return files
  | (location, Option.none) => return files.putNode location (.file ByteArray.empty)

end Files

/-! ## Directories in directories -/

/-- An operation on files: what it has changed stays when it fails. -/
abbrev FileAction := ExceptT SystemError (StateM Files)

namespace FileAction

/-- An operation that changes nothing when it fails. -/
def whole (operation : Files → Except SystemError Files) : FileAction Unit := do
  match operation (← get) with
  | .ok files => set files
  | .error cause => throw cause

/-- Make a directory, unless one is there. -/
def ensureDirectory (path : String) : FileAction Unit := do
  match (← get).makeDirectory path with
  | .ok files => set files
  | .error cause =>
    if cause = .alreadyExists && (← get).isDirectory path then return ()
    else throw cause

/--
Make the first of the paths whose own directory is there, unless a directory is
there already.  Gives the paths in front of it, the last one first.
-/
def ensureNearest : List String → List String → FileAction (List String)
  | missing, [] => return missing
  | missing, path :: paths => do
    match (ensureDirectory path).run (← get) with
    | (.ok (), files) => do
      set files
      return missing
    | (.error cause, _) =>
      if cause = .notFound then ensureNearest (path :: missing) paths else throw cause

/-- Make a directory and those around it, unless they are there. -/
def createDirectories (path : String) : FileAction Unit := do
  let missing ← ensureNearest [] (enclosingPaths path)
  missing.forM ensureDirectory

/-- Wait until a directory has kept its entries; its path must lead to it. -/
def settle (path : String) : FileAction Unit := do
  match (← get).find path with
  | .ok _ => return ()
  | .error cause => throw cause

end FileAction

end NetworkIsolation.FileSystem
