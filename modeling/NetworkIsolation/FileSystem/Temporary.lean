import NetworkIsolation.FileSystem.Tree

/-!
# Temporary files

A file is replaced as a whole by way of another one: the bytes are written to a file under a
new name in the same directory, which then takes over the path.  When it cannot, it is taken
away again.  How names are chosen is not known here; what is relied on is that a new one looks
like that of a temporary file and that nothing in the directory has it.
-/

namespace NetworkIsolation.FileSystem

/-- A choice of names for temporary files, which depends on the names that are taken. -/
structure TemporaryNames where
  pick : List String → String
  fresh : ∀ taken, pick taken ∉ taken
  marked : ∀ taken, ∃ letters, pick taken = ".tmp" ++ letters

namespace TemporaryNames

/-- The fewest letters behind the mark. -/
def fewestLetters : Nat := 6

/-- A name that is longer than all that are taken. -/
def longer (taken : List String) : String :=
  ".tmp" ++ String.ofList
    (List.replicate (taken.foldr (fun name most => max name.length most) fewestLetters) 'x')

theorem length_lt_longer {taken : List String} {name : String} (member : name ∈ taken) :
    name.length < (longer taken).length := by
  have bounded : name.length ≤
      taken.foldr (fun name most => max name.length most) fewestLetters := by
    induction taken with
    | nil => cases member
    | cons first rest induction_hypothesis =>
        rcases List.mem_cons.mp member with rfl | inside
        · exact Nat.le_max_left _ _
        · exact Nat.le_trans (induction_hypothesis inside) (Nat.le_max_right _ _)
  have letters (count : Nat) : (String.ofList (List.replicate count 'x')).length = count := by
    simp
  have mark : ".tmp".length = 4 := by decide
  rw [longer, String.length_append, letters, mark]
  omega

/-- Names that are longer than all others. -/
def usual : TemporaryNames where
  pick := longer
  fresh _ taken := absurd (length_lt_longer taken) (Nat.lt_irrefl _)
  marked _ := ⟨_, rfl⟩

instance : Inhabited TemporaryNames := ⟨usual⟩

end TemporaryNames

namespace FileAction

/--
Make an empty file under a new name in a directory, the working directory if its path is
empty.  Gives the place of the file.
-/
def createTemporary (names : TemporaryNames) (directory : String) : FileAction Location := do
  match (← get).resolve (if directory.isEmpty then "." else directory) with
  | .error cause => throw cause
  | .ok (location, some (.directory entries)) =>
    let temporary := location.child (names.pick (entries.map Prod.fst))
    modify fun files => files.putNode temporary (.file .empty)
    return temporary
  | .ok (_, some (.file _)) => throw .notDirectory
  | .ok (_, none) => throw .notFound

/-- Write the bytes of a file that was just made. -/
def write (place : Location) (content : ByteArray) : FileAction Unit :=
  modify fun files => files.putNode place (.file content)

/-- Give what is at a place another path.  A file that has the path goes, a directory stays. -/
def rename (place : Location) (path : String) : FileAction Unit := do
  let files ← get
  match files.resolve path, files.node? place with
  | .error cause, _ => throw cause
  | .ok (_, some (.directory _)), _ => throw .isDirectory
  | .ok _, none => throw .notFound
  | .ok (location, _), some node => set ((files.eraseNode place).putNode location node)

/-- Take away a temporary file if what is done with it fails. -/
def discarding (temporary : Location) (action : FileAction Unit) : FileAction Unit :=
  tryCatch action fun cause => do
    modify fun files => files.eraseNode temporary
    throw cause

/-- Replace a file as a whole by way of a temporary one in a directory. -/
def replaceFile (names : TemporaryNames) (directory path : String) (content : ByteArray) :
    FileAction Unit := do
  let temporary ← createTemporary names directory
  discarding temporary do
    write temporary content
    rename temporary path

end FileAction

end NetworkIsolation.FileSystem
