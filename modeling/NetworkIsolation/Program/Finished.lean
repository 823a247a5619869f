import NetworkIsolation.Backend.Command
import NetworkIsolation.Text.Blank
import NetworkIsolation.Text.Utf8

/-!
# Programs that have run

A program that has run left bytes on two channels and ended with a status or by
a signal.  `invoker` runs commands by starting programs: one that ends with
status zero answers with its output, and any other ending is a failure that
carries everything the program printed, trimmed.
-/

namespace NetworkIsolation.Program

open NetworkIsolation.Backend NetworkIsolation.FileSystem NetworkIsolation.Text

/-- How a program ended. -/
inductive Ending where
  | exited (status : Nat)
  | signalled (signal : Nat)
  deriving DecidableEq, Repr

namespace Ending

/-- The status, unless a signal ended the program. -/
def status? : Ending → Option Int
  | .exited status => some status
  | .signalled _ => none

/-- The words for an ending. -/
def message : Ending → String
  | .exited status => "exit status: " ++ toString status
  | .signalled signal => "signal: " ++ toString signal

end Ending

/-- What a program left behind. -/
structure Finished where
  ending : Ending
  output : List UInt8
  errors : List UInt8
  deriving DecidableEq, Repr

/-- Starting a program with its arguments and its input, on a state. -/
abbrev Launcher (σ : Type) := Command → StateM σ (Except SystemError Finished)

/-- What a program that has run answers to its command. -/
def Finished.reply (finished : Finished) (command : Command) : Reply String :=
  let output := decodeLossy finished.output
  if finished.ending = .exited 0 then .ok output
  else
    .error (.commandFailed (displayLine command.line) finished.ending.status?
      (trim (output ++ decodeLossy finished.errors)))

/-- Whether every word of a command line can be given to a program. -/
def isPassable (line : List String) : Bool :=
  line.all fun word => !word.contains '\x00'

variable {σ : Type} [Journal σ]

/-- Run commands by starting programs. -/
def invoker (launch : Launcher σ) : Invoker σ where
  run command :=
    match command.line with
    | [] => return .error (.executionFailed "empty command line")
    | program :: _ => do
      note .commands .debug ("running: " ++ displayLine command.line)
      let started ←
        if isPassable command.line then launch command
        else pure (.error .nulInCommand)
      match started with
      | .error cause => return .error (.notStarted program cause)
      | .ok finished =>
        note .commands .trace (displayLine command.line ++ " -> " ++ finished.ending.message)
        return finished.reply command

end NetworkIsolation.Program
