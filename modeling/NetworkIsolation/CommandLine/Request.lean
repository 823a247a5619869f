import NetworkIsolation.CommandLine.Arguments
import NetworkIsolation.Reconcile.Engine

/-!
# Requests

The commands of the program, their options, and what a command line asks for.
Most options may stand before the command or after it; after it counts.
-/

namespace NetworkIsolation.CommandLine

open NetworkIsolation.Configuration NetworkIsolation.Reconcile

/-- The name of the program. -/
def programName : String := "netfence"

/-- The version of the program. -/
def programVersion : String := "0.1.0"

/-- What the program does. -/
def programAbout : String :=
  "Reconcile network spaces and load-balancer pools for isolated deployments"

/-- Where answers are kept unless an option says otherwise. -/
def defaultStore : String := "~/.local/share/netfence"

/-- Where manual pages are written unless an operand says otherwise. -/
def defaultManualDirectory : String := "man"

/-! ## Rules -/

/-- The option that stands before the command only. -/
def storeOption : OptionRule where
  name := "store"
  value := .text
  about := "Path to the answer store directory"

/-- The options that stand before or after the command. -/
def commonOptions : List OptionRule :=
  [{ name := "config", value := .path, about := "Settings file" },
    { name := "model", value := .text, about := "Fabric model to reconcile" },
    { name := "json", value := .flag, about := "Output results as structured JSON" },
    { name := "verbose", short := some 'v', value := .flag, about := "Enable verbose logging" },
    { name := "trace", value := .flag, about := "Enable trace-level logging" }]

/-- The option that chooses one step. -/
def stepOption : OptionRule where
  name := "step"
  value := .oneOf ["spaces", "pools"]
  about := "Only one step"

/-- The shells that completions can be made for. -/
def shellNames : List String :=
  ["bash", "elvish", "fish", "powershell", "zsh"]

/-- The commands. -/
def commandRules : List CommandRule :=
  [{ name := "import"
     about := "Import an isolation document into the answer store"
     options := [{ name := "file", value := .path, about := "Document to import" }] },
    { name := "ranges"
      about := "Set the load-balancer address ranges"
      options := [
        { name := "public", value := .text, about := "Ranges for the public pool" },
        { name := "internal", value := .text, about := "Ranges for the internal pool" },
        { name := "shared", value := .text, about := "Range for pools without their own" },
        { name := "clear", value := .flag, about := "Remove all stored ranges" }] },
    { name := "show", about := "Show the isolation configuration as currently stored" },
    { name := "plan"
      about := "Check which steps would run, without changing anything"
      options := [stepOption] },
    { name := "apply"
      about := "Reconcile the fabric and load balancer with the stored configuration"
      options := [
        stepOption,
        { name := "import", value := .flag, about := "Import the document first" }] },
    { name := "doctor", about := "Run diagnostic checks on the system and answer store" },
    { name := "completions"
      about := "Generate shell completions"
      operand := some {
        name := "shell", value := .oneOf shellNames, isRequired := true
        about := "Shell to generate completions for" } },
    { name := "man-pages"
      about := "Generate man pages in the specified directory"
      operand := some {
        name := "dir", value := .path, isRequired := false
        about := "Output directory for man pages" } }]

/-! ## Requests -/

/-- The options that every command has. -/
structure CommonChoices where
  store : String
  config : Option String
  model : Option String
  json : Bool
  verbose : Bool
  trace : Bool
  deriving DecidableEq, Repr

/-- The ranges that are to be changed. -/
structure RangeChoices where
  publicRange : Option String
  internalRange : Option String
  sharedRange : Option String
  clear : Bool
  deriving DecidableEq, Repr

/-- A command with what was given for it. -/
inductive Task where
  | importDocument (file : Option String)
  | setRanges (choices : RangeChoices)
  | showConfiguration
  | plan (selection : StepSelection)
  | apply (selection : StepSelection) (importFirst : Bool)
  | doctor
  | completions (shell : String)
  | manualPages (directory : String)
  deriving DecidableEq, Repr

/-- What a command line asks for. -/
inductive Request where
  | run (choices : CommonChoices) (task : Task)
  /-- The help about a command, or about the program. -/
  | help (command : Option CommandRule)
  | version
  deriving DecidableEq, Repr

/-- The steps that were chosen. -/
def selectionOf (given : Given) : StepSelection :=
  match given.get? "step" with
  | some "spaces" => .spaces
  | some "pools" => .pools
  | _ => .all

/-- The ranges that were given; clearing them goes with no range. -/
def rangeChoices (given : Given) : Except UsageFault RangeChoices :=
  let choices : RangeChoices :=
    ⟨given.get? "public", given.get? "internal", given.get? "shared", given.has "clear"⟩
  match ["public", "internal", "shared"].find? given.has with
  | some name => if choices.clear then .error (.conflictingOption name) else .ok choices
  | none => .ok choices

/-- The command that was given. -/
def taskOf (name : String) (given : Given) : Except UsageFault Task :=
  match name with
  | "import" => .ok (.importDocument (given.get? "file"))
  | "ranges" => (rangeChoices given).map .setRanges
  | "show" => .ok .showConfiguration
  | "plan" => .ok (.plan (selectionOf given))
  | "apply" => .ok (.apply (selectionOf given) (given.has "import"))
  | "doctor" => .ok .doctor
  | "completions" => .ok (.completions ((given.get? "shell").getD ""))
  | _ => .ok (.manualPages ((given.get? "dir").getD defaultManualDirectory))

/-- The options of both levels together. -/
def commonChoices (before after : Given) : CommonChoices where
  store := (before.get? "store").getD defaultStore
  config := (after.get? "config").or (before.get? "config")
  model := (after.get? "model").or (before.get? "model")
  json := before.has "json" || after.has "json"
  verbose := before.has "verbose" || after.has "verbose"
  trace := before.has "trace" || after.has "trace"

/-- The rule of a command. -/
def commandRule? (name : String) : Option CommandRule :=
  commandRules.find? fun rule => rule.name = name

/-- The help that is asked for by the words after `help`. -/
def helpRequest : List String → Except UsageFault Request
  | [] => .ok (.help none)
  | ["help"] => .ok (.help none)
  | [name] =>
    match commandRule? name with
    | some rule => .ok (.help (some rule))
    | none => .error (.unexpectedWord name)
  | name :: word :: _ =>
    .error (.unexpectedWord (if (commandRule? name).isSome || name = "help" then word else name))

/-- The request that a command and the words after it make. -/
def commandRequest (before : Given) (rule : CommandRule) (words : List String) :
    Except UsageFault Request :=
  match scanCommand rule (commonOptions ++ rule.options) words with
  | .error .help => .ok (.help (some rule))
  | .error .version => .ok .version
  | .error (.usage fault) => .error fault
  | .ok after => (taskOf rule.name after).map fun task => .run (commonChoices before after) task

/-- The request that the words from the command on make. -/
def namedRequest (before : Given) (word : String) (rest : List String) :
    Except UsageFault Request :=
  if word = "help" then helpRequest rest
  else
    match commandRule? word with
    | some rule => commandRequest before rule rest
    | none => .error (.unexpectedWord word)

/-- Whether a command is run. -/
def Request.isRun : Request → Bool
  | .run _ _ => true
  | _ => false

/-- What a command line asks for. -/
def Request.parse (words : List String) : Except UsageFault Request :=
  match scanOptions (storeOption :: commonOptions) true [] words with
  | .error .help => .ok (.help none)
  | .error .version => .ok .version
  | .error (.usage fault) => .error fault
  | .ok ⟨_, _, _, []⟩ => .error .missingCommand
  | .ok ⟨_, _, true, word :: _⟩ => .error (.unexpectedWord word)
  | .ok ⟨before, none, false, word :: rest⟩ => namedRequest before word rest
  | .ok ⟨before, some fault, false, word :: rest⟩ => do
    let request ← namedRequest before word rest
    if request.isRun then throw fault else return request

end NetworkIsolation.CommandLine
