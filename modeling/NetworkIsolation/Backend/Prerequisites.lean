import NetworkIsolation.Program.Finished

/-!
# Prerequisites

Reconciliation needs two tools.  A tool that is not found is reported with what
it is for and how to install it.  Names without a slash are put to the program
`which`, whose answers are not known here: they are a parameter.
-/

namespace NetworkIsolation.Backend

open NetworkIsolation.FileSystem NetworkIsolation.Program

/-- A tool that was not found. -/
structure MissingTool where
  name : String
  purpose : String
  installHint : String
  deriving DecidableEq, Repr

/-- The line about a missing tool. -/
def MissingTool.describe (tool : MissingTool) : String :=
  "  - " ++ tool.name ++ ": " ++ tool.purpose ++ " (install: " ++ tool.installHint ++ ")"

/-- The tools that reconciliation needs under the names they are called by. -/
def requiredTools (fabricProgram balancerProgram : String) : List MissingTool :=
  [⟨fabricProgram, "network space and application configuration", "snap install juju"⟩,
    ⟨balancerProgram, "MetalLB address pools and advertisements",
      "snap install kubectl --classic"⟩]

/-- Whether a program was started and ended with status zero. -/
def endedWell : Except SystemError Finished → Bool
  | .ok finished => finished.ending = .exited 0
  | .error _ => false

/--
Whether a tool is found.  A name with a slash is a path to a file.  Any other name is given
to `which`; a tool is not found where that cannot be started.
-/
def toolFound (isFile : String → Bool) (which : String → Except SystemError Finished)
    (name : String) : Bool :=
  if name.contains '/' then isFile name
  else isPassable ["which", name] && endedWell (which name)

/-- The needed tools that are not found. -/
def missingTools (found : String → Bool) (fabricProgram balancerProgram : String) :
    List MissingTool :=
  (requiredTools fabricProgram balancerProgram).filter fun tool => !found tool.name

/-- The message about missing tools. -/
def missingMessage (missing : List MissingTool) : String :=
  "missing prerequisites:\n" ++ String.join (missing.map fun tool => tool.describe ++ "\n") ++
    "\nnetfence drives these tools to reconcile network isolation."

end NetworkIsolation.Backend
