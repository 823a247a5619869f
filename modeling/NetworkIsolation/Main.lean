import NetworkIsolation.CommandLine.Run
import Std.Time.Date.PlainDate
import Std.Time.DateTime.Timestamp

/-!
# The program

The outer layer: it loads the files that a command line can touch, runs the
command line on them, writes back what changed, and prints.  It starts no other
programs, so a command line that needs tools says that they are missing.
-/

namespace NetworkIsolation.Main

open NetworkIsolation.CommandLine NetworkIsolation.FileSystem NetworkIsolation.Text

/-- Files after a change, or as they were when it fails. -/
def settled (files : Files) (changed : Except SystemError Files) : Files :=
  match changed with
  | .ok files => files
  | .error _ => files

/-- A path and the paths of the directories above it, the highest one first. -/
def ancestry (path : String) : List String :=
  let pieces := pathPieces path
  (List.range (pieces.length + 1)).filterMap fun count =>
    let ancestor := "/".intercalate (pieces.take count)
    if ancestor.isEmpty then none else some ancestor

/-- Load what is at one path: the bytes of a file, or a directory without its entries. -/
def loadNode (files : Files) (path : String) : IO Files := do
  try
    let content ← IO.FS.readBinFile path
    return settled files (files.putFile path content)
  catch _ =>
    try
      let _ ← (← IO.FS.realPath path).readDir
      return ((FileAction.createDirectories path).run files).2
    catch _ => return files

/-- Load what is at a path and above it. -/
def loadPath (files : Files) (path : String) : IO Files :=
  (ancestry path).foldlM loadNode files

/-- Load a directory with its files. -/
def loadDirectory (files : Files) (path : String) : IO Files := do
  let files ← loadPath files path
  try
    let entries ← (← IO.FS.realPath path).readDir
    (entries.toList.map fun entry => joinPath path entry.fileName).foldlM loadNode files
  catch _ => return files

/-- Load a store. -/
def loadStore (files : Files) (store : String) : IO Files := do
  let files ← ["version", ".lock", "netfence.toml"].foldlM
    (fun files name => loadPath files (joinPath store name)) files
  loadDirectory files (joinPath store "answers")

/-- The paths that a task reads or writes, apart from the store. -/
def taskPaths (host : Host) (choices : CommonChoices) (task : Task) : List String :=
  let store := expandHome host choices.store
  let settings := ((storedSettings host choices store).toOption).getD {}
  let own :=
    match task with
    | .importDocument file => file.toList
    | .manualPages directory => [directory]
    | _ => []
  own ++ [settings.importing.path] ++ settings.loadBalancer.kubeconfig.toList

/-- Load the files that a request touches. -/
def loadRequest (host : Host) : Request → IO Host
  | .run choices task => do
    let files ← loadStore host.files (expandHome host choices.store)
    let files ← choices.config.toList.foldlM loadPath files
    let host := { host with files }
    let files ← (taskPaths host choices task).foldlM loadPath host.files
    return { host with files }
  | _ => return host

/-- Write the files and directories that are not as they were; their paths begin with `base`. -/
def storeTree (before after : Files) (top base : String) : IO Unit :=
  let below := match after.find top with
    | .ok node => node.paths base
    | .error _ => []
  below.forM fun path => do
    match after.find path, before.find path with
    | .ok (.file content), .ok (.file old) =>
      if content.data = old.data then pure () else IO.FS.writeBinFile path content
    | .ok (.file content), _ => IO.FS.writeBinFile path content
    | .ok (.directory _), .error _ => IO.FS.createDirAll path
    | _, _ => pure ()

/-- Digits with zeros in front up to a width. -/
def digits (width : Nat) (number : Int) : String :=
  let text := toString number
  String.ofList (List.replicate (width - text.length) '0') ++ text

/-- The nanoseconds of a second. -/
def nanosecondsPerSecond : Int := 1000000000

/-- The time that lies a number of nanoseconds after the beginning of 1970. -/
def timeText (nanoseconds : Int) : String :=
  let seconds := nanoseconds / nanosecondsPerSecond
  let date := Std.Time.PlainDate.ofEpochDay ⟨seconds / 86400⟩
  let second := seconds % 86400
  digits 4 date.year.toInt ++ "-" ++ digits 2 date.month.val ++ "-" ++ digits 2 date.day.val ++
    "T" ++ digits 2 (second / 3600) ++ ":" ++ digits 2 (second / 60 % 60) ++ ":" ++
    digits 2 (second % 60) ++ "." ++ digits 9 (nanoseconds % nanosecondsPerSecond) ++ "+00:00"

/-- The present time. -/
def presentTime : IO String := do
  let now ← Std.Time.Timestamp.now
  return timeText now.toNanosecondsSinceUnixEpoch.val

/-- The environment variables that the command line looks at. -/
def variableNames : List String :=
  ["HOME", "PATH", "NETFENCE_LOG", "NETFENCE_SKIP_PREREQS", "CLICOLOR_FORCE"]

/-- The variables that are set. -/
def presentVariables : IO (Entries String) := do
  let values ← variableNames.mapM fun name => do
    return (← IO.getEnv name).map fun value => (name, value)
  return values.filterMap id

end NetworkIsolation.Main

open NetworkIsolation NetworkIsolation.CommandLine NetworkIsolation.Main

/-- Run the command line on the files of the system. -/
def main (words : List String) : IO UInt32 := do
  let host : Host := {
    files := .none
    environment := ← presentVariables
    programs := []
    now := .ofTime (← presentTime) }
  let loaded ← match Request.parse words with
    | .ok request => loadRequest host request
    | .error _ => pure host
  let (status, after) := run words loaded
  storeTree loaded.files after.files "." ""
  storeTree loaded.files after.files "/" "/"
  IO.print after.output
  IO.eprint after.errors
  return status.toUInt32
