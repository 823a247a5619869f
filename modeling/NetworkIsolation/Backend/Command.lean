import NetworkIsolation.Backend.Error
import NetworkIsolation.Backend.State

/-!
# Commands

Production backends work by running commands.  A command has a program with its
arguments and possibly a text to feed it with; running it gives what it printed.
-/

namespace NetworkIsolation.Backend

/-- A command line, the program first, and what the command is fed with. -/
structure Command where
  line : List String
  input : Option String
  deriving DecidableEq, Repr

/-- The words of a command line with blanks in between. -/
def displayLine (line : List String) : String :=
  " ".intercalate line

/-- Something that runs commands. -/
structure Invoker (σ : Type) where
  run : Command → StateM σ (Reply String)

namespace Invoker

variable {σ τ : Type}

/-- Run commands on a part of a state. -/
def lift (invoker : Invoker σ) (part : Part σ τ) : Invoker τ where
  run command := part.lift (invoker.run command)

end Invoker

/-- Replies that are played in order, and the commands that have asked for them. -/
structure Script where
  replies : List (Reply String)
  commands : List Command
  deriving Inhabited

namespace Script

/-- A script that has not been asked for anything. -/
def ofReplies (replies : List (Reply String)) : Script :=
  ⟨replies, []⟩

/-- Play the next reply; after the last one every command succeeds and prints nothing. -/
def play (command : Command) : StateM Script (Reply String) := fun script =>
  (script.replies.headD (.ok ""), ⟨script.replies.drop 1, script.commands ++ [command]⟩)

/-- The invoker that plays a script. -/
def invoker : Invoker Script where
  run := play

/-- Notes are not part of a script. -/
instance : Journal Script where
  record _ script := script

end Script

end NetworkIsolation.Backend
