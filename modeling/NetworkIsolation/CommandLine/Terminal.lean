import NetworkIsolation.CommandLine.Host

/-!
# The terminal

How results look: colours where the environment asks for them, columns of a
fixed width, and reports as lines or as JSON.
-/

namespace NetworkIsolation.CommandLine

open NetworkIsolation.Backend NetworkIsolation.Json NetworkIsolation.Reconcile

/-- The ways in which a text can be made to stand out, by their terminal codes. -/
inductive Style where
  | green
  | yellow
  | red
  | cyan
  | bold
  | dim
  deriving DecidableEq, Repr

/-- The terminal code of a style. -/
def Style.code : Style → Nat
  | .bold => 1
  | .dim => 2
  | .red => 31
  | .green => 32
  | .yellow => 33
  | .cyan => 36

/-- The sequence that sends a code to the terminal. -/
def escapeSequence (code : Nat) : String :=
  "\x1b[" ++ toString code ++ "m"

/-- A text in some styles, which end after it; without colours the text alone. -/
def styled (hasColours : Bool) (styles : List Style) (text : String) : String :=
  if hasColours && !styles.isEmpty then
    String.join (styles.map fun style => escapeSequence style.code) ++ text ++ escapeSequence 0
  else
    text

/-- A text with blanks behind it up to a width in characters. -/
def padded (width : Nat) (text : String) : String :=
  text ++ String.ofList (List.replicate (width - text.length) ' ')

/-- The styles of a status. -/
def statusStyles : StepStatus → List Style
  | .completed => [.green]
  | .ready => [.cyan, .bold]
  | .skipped => [.dim]
  | .failed => [.red, .bold]

/-- The line of a step in a report. -/
def reportLine (hasColours : Bool) (report : StepReport) : String :=
  let status := styled hasColours (statusStyles report.status) report.status.word
  let message :=
    match report.message with
    | some text => " (" ++ text ++ ")"
    | none => ""
  "  " ++ padded 8 report.name ++ " " ++ status ++ message

/-- Write a value as JSON. -/
def sayJson (value : Value) : StateM Host Unit :=
  Host.say value.pretty

/-- Write a report. -/
def sayReport (json : Bool) (report : PlanReport) : StateM Host Unit := do
  let host ← get
  if json then sayJson (report.toValue host.now.time host.now.time)
  else Host.sayLines (report.steps.map (reportLine host.hasColours))

/--
Messages for the operator.  Beside JSON output every message goes where errors
go, so that the output can be read by a program.
-/
def terminal (json : Bool) : Console Host where
  success message := do
    let line := styled (← get).hasColours [.green] message
    if json then Host.tell line else Host.say line
  error message := do
    Host.tell (styled (← get).hasColours [.red] message)

end NetworkIsolation.CommandLine
