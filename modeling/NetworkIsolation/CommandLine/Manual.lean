import NetworkIsolation.CommandLine.Request

/-!
# The manual

Help texts, manual pages and completions, all made from the rules of the
command line.
-/

namespace NetworkIsolation.CommandLine

/-- The words for an option and its value. -/
def optionUsage (rule : OptionRule) : String :=
  let short :=
    match rule.short with
    | some letter => "-" ++ String.singleton letter ++ ", "
    | none => ""
  let value :=
    match rule.value with
    | .flag => ""
    | .oneOf words => " <" ++ "|".intercalate words ++ ">"
    | _ => " <" ++ rule.name.map Char.toUpper ++ ">"
  short ++ "--" ++ rule.name ++ value

/-- The lines about options. -/
def optionLines (rules : List OptionRule) : List String :=
  rules.map fun rule => "  " ++ optionUsage rule ++ "  " ++ rule.about

/-- The options of a command. -/
def allOptions (rule : CommandRule) : List OptionRule :=
  rule.options ++ commonOptions

/-- The words for an operand. -/
def operandUsage (rule : CommandRule) : String :=
  match rule.operand with
  | some operand =>
    if operand.isRequired then " <" ++ operand.name ++ ">" else " [" ++ operand.name ++ "]"
  | none => ""

/-- How a command is called. -/
def commandUsage (rule : CommandRule) : String :=
  "Usage: " ++ programName ++ " " ++ rule.name ++ " [OPTIONS]" ++ operandUsage rule

/-- How the program is called. -/
def programUsage : String :=
  "Usage: " ++ programName ++ " [OPTIONS] <COMMAND>"

/-- The help about a command. -/
def commandHelp (rule : CommandRule) : String :=
  "\n".intercalate ([rule.about, "", commandUsage rule, "", "Options:"] ++
    optionLines (allOptions rule))

/-- The help about the program. -/
def programHelp : String :=
  "\n".intercalate ([programAbout, "", programUsage, "", "Commands:"] ++
    commandRules.map (fun rule => "  " ++ rule.name ++ "  " ++ rule.about) ++
    ["", "Options:"] ++ optionLines (storeOption :: commonOptions))

/-- The help about a command, or about the program. -/
def helpText : Option CommandRule → String
  | some rule => commandHelp rule
  | none => programHelp

/-- What is written when a command line cannot be understood. -/
def usageText (fault : UsageFault) : String :=
  "error: " ++ fault.message ++ "\n\n" ++ programUsage ++
    "\n\nFor more information, try '--help'."

/-- The version line. -/
def versionText : String :=
  programName ++ " " ++ programVersion

/-- A manual page with a name, a purpose, a way to call it and its options. -/
def manualPage (name about usage : String) (options : List OptionRule) : String :=
  "\n".intercalate ([".TH " ++ name ++ " 1 \"" ++ versionText ++ "\"", ".SH NAME",
    name ++ " \\- " ++ about, ".SH SYNOPSIS", usage, ".SH OPTIONS"] ++
    options.flatMap (fun rule => [".TP", optionUsage rule, rule.about])) ++ "\n"

/-- The manual pages by their file names: the program's own, and one for each command. -/
def manualPages : List (String × String) :=
  (programName ++ ".1",
    manualPage programName programAbout programUsage (storeOption :: commonOptions)) ::
  commandRules.map fun rule =>
    (programName ++ "-" ++ rule.name ++ ".1",
      manualPage (programName ++ "-" ++ rule.name) rule.about (commandUsage rule) (allOptions rule))

/-- The completions of a shell: the commands, after the program's name. -/
def completionScript (shell : String) : String :=
  let words := " ".intercalate (commandRules.map CommandRule.name)
  match shell with
  | "zsh" => "#compdef " ++ programName ++ "\ncompadd " ++ words
  | "fish" => "complete -c " ++ programName ++ " -f -a '" ++ words ++ "'"
  | "elvish" =>
    "set edit:completion:arg-completer[" ++ programName ++ "] = \x7b|@args| put " ++ words ++
      " \x7d"
  | "powershell" =>
    "Register-ArgumentCompleter -Native -CommandName '" ++ programName ++
      "' -ScriptBlock \x7b -split '" ++ words ++ "' \x7d"
  | _ => "complete -W '" ++ words ++ "' " ++ programName

end NetworkIsolation.CommandLine
