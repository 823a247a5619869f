import NetworkIsolation.CommandLine.LogFilter
import NetworkIsolation.Program.Finished
import NetworkIsolation.Reconcile.Engine

/-!
# The host of a command line

What a command line sees and changes: files, environment variables, programs,
and what it has written so far.  A program stands at a path and plays replies
in order; it succeeds in silence after the last one.  It reads the first line of
its input when its last argument is a dash, and every call is kept.  The answers of
`which` are part of the host too, and nothing ties them to its programs.
-/

namespace NetworkIsolation.CommandLine

open NetworkIsolation.Backend NetworkIsolation.Configuration NetworkIsolation.FileSystem
open NetworkIsolation.Program NetworkIsolation.Reconcile NetworkIsolation.Store
open NetworkIsolation.Text

/-- A program at a path, and the replies it has left. -/
structure HostProgram where
  name : String
  path : String
  replies : List Finished
  deriving Repr

/-- A call of a program: its name with its arguments, and what it read. -/
structure ProgramCall where
  line : List String
  input : String
  deriving DecidableEq, Repr

/-- What a command line sees and changes. -/
structure Host where
  files : Files
  environment : Entries String
  programs : List HostProgram
  /-- What starting `which` with a name comes to. -/
  which : String → Except SystemError Finished := fun _ => .error .notFound
  /-- The moment at which everything happens. -/
  now : Moment
  calls : List ProgramCall := []
  filter : LogFilter := .upTo .warn
  output : String := ""
  errors : String := ""
  deriving Inhabited

namespace Host

/-- The files as part of a host. -/
def filesPart : Part Files Host where
  get := Host.files
  set files host := { host with files }

/-- The value of an environment variable. -/
def setting? (host : Host) (name : String) : Option String :=
  host.environment.get? name

/-- Whether the environment asks for colours. -/
def hasColours (host : Host) : Bool :=
  (host.setting? "CLICOLOR_FORCE").getD "0" ≠ "0"

/-- Notes that the filter shows are written as lines. -/
instance : Journal Host where
  record entry host :=
    if host.filter.shows entry then { host with errors := host.errors ++ logLine entry } else host

/-- Write a line of output. -/
def say (line : String) : StateM Host Unit :=
  modify fun host => { host with output := host.output ++ line ++ "\n" }

/-- Write lines of output. -/
def sayLines (lines : List String) : StateM Host Unit :=
  lines.forM say

/-- Write a line beside the output. -/
def tell (line : String) : StateM Host Unit :=
  modify fun host => { host with errors := host.errors ++ line ++ "\n" }

/-! ## Programs -/

/-- The directories in which programs are looked up. -/
def searchPath (host : Host) : List String :=
  match host.setting? "PATH" with
  | some text => (splitAt ':' text.toList).map String.ofList
  | none => []

/-- Where a program may be: a name with a slash is a path, any other name is looked up. -/
def candidates (host : Host) (name : String) : List String :=
  if name.isEmpty then []
  else if name.contains '/' then [name]
  else host.searchPath.map fun directory => joinPath directory name

/-- Whether two paths lead to one place. -/
def isSamePlace (host : Host) (path other : String) : Bool :=
  match host.files.resolve path, host.files.resolve other with
  | .ok (location, _), .ok (otherLocation, _) => location = otherLocation
  | _, _ => false

/-- The program at a path. -/
def programAt? (host : Host) (path : String) : Option HostProgram :=
  host.programs.find? fun program => host.isSamePlace program.path path

/-- Why no program is run for a name: something that is there may not be run. -/
def launchFault (host : Host) (name : String) : SystemError :=
  let faults := (host.candidates name).map fun path =>
    match host.files.find path with
    | .ok _ => SystemError.accessDenied
    | .error cause => cause
  (faults.find? fun fault => fault ≠ .notFound).getD .notFound

/-- The programs with one reply of a program played. -/
def playReply (path : String) : List HostProgram → List HostProgram
  | [] => []
  | program :: programs =>
    if program.path = path then { program with replies := program.replies.drop 1 } :: programs
    else program :: playReply path programs

/-- What a program reads of its input. -/
def inputRead (command : Command) : String :=
  if command.line.getLast? = some "-" then
    String.ofList (((command.input.getD "").toList).takeWhile (· ≠ '\n'))
  else
    ""

/-- Start a program. -/
def launch : Launcher Host := fun command host =>
  let name := command.line.headD ""
  match (host.candidates name).findSome? host.programAt? with
  | none => (.error (host.launchFault name), host)
  | some program =>
    (.ok (program.replies.headD ⟨.exited 0, [], []⟩),
      { host with
        programs := playReply program.path host.programs
        calls := host.calls ++ [⟨program.name :: command.line.drop 1, inputRead command⟩] })

/-- Running commands on a host. -/
def invoker : Invoker Host :=
  Program.invoker launch

/-! ## Files -/

/-- The text of a file on a host. -/
def textSource : TextSource Host := fun path => do
  return (← get).files.readText path

end Host

end NetworkIsolation.CommandLine
