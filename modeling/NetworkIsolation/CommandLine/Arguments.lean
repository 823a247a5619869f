import NetworkIsolation.Entries

/-!
# Arguments

What the words of a command line mean.  Rules say which options there are, with
or without a value, and which operand a command takes; `scanOptions` goes over
the words by the rules and stops at the first fault.

An option with a value takes the rest of its word after `=`, or the next word
unless that looks like an option.  An option may be given once at each of the
two levels.  After `--` every word is an operand.

A value in a word of its own counts as soon as the next option or the end is
reached.  So when a plain word follows it, a fault of the value is kept beside
what is left: the command that follows may still ask for help.
-/

namespace NetworkIsolation.CommandLine

/-- What an option or an operand may be given. -/
inductive ValueRule where
  /-- The option is only there or not. -/
  | flag
  | text
  /-- A text that is not empty. -/
  | path
  | oneOf (words : List String)
  deriving DecidableEq, Repr

/-- An option and what it may be given. -/
structure OptionRule where
  name : String
  short : Option Char := none
  value : ValueRule
  about : String
  deriving DecidableEq, Repr

/-- An operand of a command. -/
structure OperandRule where
  name : String
  value : ValueRule
  isRequired : Bool
  about : String
  deriving DecidableEq, Repr

/-- A command with its options and its operand. -/
structure CommandRule where
  name : String
  about : String
  options : List OptionRule := []
  operand : Option OperandRule := none
  deriving DecidableEq, Repr

/-- What is wrong with a command line. -/
inductive UsageFault where
  | unknownOption (word : String)
  | unexpectedWord (word : String)
  | unexpectedValue (option : String)
  | missingValue (option : String)
  | invalidValue (option value : String)
  | repeatedOption (option : String)
  | conflictingOption (option : String)
  | missingCommand
  | missingOperand (operand : String)
  deriving DecidableEq, Repr

/-- The words for a fault. -/
def UsageFault.message : UsageFault → String
  | .unknownOption word => "unknown option '" ++ word ++ "'"
  | .unexpectedWord word => "unexpected argument '" ++ word ++ "'"
  | .unexpectedValue option => "option '--" ++ option ++ "' takes no value"
  | .missingValue option => "a value is required for '" ++ option ++ "'"
  | .invalidValue option value => "invalid value '" ++ value ++ "' for '" ++ option ++ "'"
  | .repeatedOption option => "option '--" ++ option ++ "' cannot be used multiple times"
  | .conflictingOption option => "option '--clear' cannot be used with '--" ++ option ++ "'"
  | .missingCommand => "a command is required"
  | .missingOperand operand => "the argument <" ++ operand ++ "> is required"

/-- Why no command is run. -/
inductive Detour where
  | usage (fault : UsageFault)
  | help
  | version
  deriving DecidableEq, Repr

/-- What was given: the values of options and operands by name. -/
abbrev Given := Entries String

/-- How a word looks. -/
inductive WordShape where
  /-- The word after which there are no more options. -/
  | separator
  | long (name : String) (value : Option String)
  | short (letters : List Char)
  | plain
  deriving DecidableEq, Repr

/-- How a word looks: options begin with a dash, and a single dash is plain. -/
def WordShape.of (word : String) : WordShape :=
  match word.toList with
  | ['-', '-'] => .separator
  | '-' :: '-' :: rest =>
    let name := String.ofList (rest.takeWhile (· ≠ '='))
    match rest.dropWhile (· ≠ '=') with
    | [] => .long name none
    | _ :: value => .long name (some (String.ofList value))
  | ['-'] => .plain
  | '-' :: letters => .short letters
  | _ => .plain

/-- Whether a value is accepted. -/
def ValueRule.accepts (rule : ValueRule) (value : String) : Bool :=
  match rule with
  | .flag => value.isEmpty
  | .text => true
  | .path => !value.isEmpty
  | .oneOf words => words.contains value

/-- Take a value that was given for a name. -/
def give (given : Given) (name : String) (rule : ValueRule) (value : String) :
    Except Detour Given :=
  if given.has name then .error (.usage (.repeatedOption name))
  else if rule.accepts value then .ok (given.insert name value)
  else .error (.usage (.invalidValue name value))

/-- Take the letters of a word with a single dash, each of which is a flag. -/
def giveLetters (rules : List OptionRule) (hasVersion : Bool) :
    Given → List Char → Except Detour Given
  | given, [] => .ok given
  | given, letter :: letters =>
    if letter = 'h' then .error .help
    else if hasVersion && letter = 'V' then .error .version
    else
      match rules.find? fun rule => rule.short = some letter with
      | none => .error (.usage (.unknownOption ("-" ++ String.singleton letter)))
      | some rule =>
        match give given rule.name rule.value "" with
        | .error detour => .error detour
        | .ok given => giveLetters rules hasVersion given letters

/-- What a scan over options came to. -/
structure Scan where
  given : Given
  /-- What is wrong with the value right in front of the words that are left. -/
  fault : Option UsageFault
  /-- Whether the words that are left are all operands. -/
  isPlain : Bool
  rest : List String
  deriving DecidableEq, Repr

/-- The rule of a long option that is not one of those that lead elsewhere. -/
def longRule (rules : List OptionRule) (hasVersion : Bool) (name : String)
    (value : Option String) : Except Detour OptionRule :=
  match name, value with
  | "help", none => .error .help
  | "help", some _ => .error (.usage (.unexpectedValue name))
  | _, _ =>
    if hasVersion && name = "version" then
      .error (if value.isNone then .version else .usage (.unexpectedValue name))
    else
      match rules.find? fun rule => rule.name = name with
      | some rule => .ok rule
      | none => .error (.usage (.unknownOption ("--" ++ name)))

/-- Keep a fault of a value beside the words after it, if the first of them is plain. -/
def deferFault (given : Given) (detour : Detour) (rest : List String) : Except Detour Scan :=
  match detour, rest with
  | .usage fault, word :: _ =>
    if WordShape.of word = .plain then .ok ⟨given, some fault, false, rest⟩ else .error detour
  | _, _ => .error detour

/-- Go over options up to the first plain word. -/
def scanOptions (rules : List OptionRule) (hasVersion : Bool) (given : Given) :
    List String → Except Detour Scan
  | [] => .ok ⟨given, none, false, []⟩
  | word :: rest =>
    match WordShape.of word with
    | .separator => .ok ⟨given, none, true, rest⟩
    | .plain => .ok ⟨given, none, false, word :: rest⟩
    | .short letters =>
      match giveLetters rules hasVersion given letters with
      | .error detour => .error detour
      | .ok given => scanOptions rules hasVersion given rest
    | .long name value =>
      match longRule rules hasVersion name value with
      | .error detour => .error detour
      | .ok rule =>
        match rule.value, value, rest with
        | .flag, some _, _ => .error (.usage (.unexpectedValue name))
        | .flag, none, rest =>
          match give given name .flag "" with
          | .error detour => .error detour
          | .ok given => scanOptions rules hasVersion given rest
        | kind, some value, rest =>
          match give given name kind value with
          | .error detour => .error detour
          | .ok given => scanOptions rules hasVersion given rest
        | _, none, [] => .error (.usage (.missingValue name))
        | kind, none, next :: following =>
          if WordShape.of next = .plain then
            match give given name kind next with
            | .error detour => deferFault given detour following
            | .ok given => scanOptions rules hasVersion given following
          else
            .error (.usage (.missingValue name))

/-- The end of a command line, where nothing may be left and nothing may be missing. -/
def finishWords (rule : CommandRule) (given : Given) : List String → Except Detour Given
  | word :: _ => .error (.usage (.unexpectedWord word))
  | [] =>
    match rule.operand with
    | some operand =>
      if operand.isRequired && !given.has operand.name then
        .error (.usage (.missingOperand operand.name))
      else
        .ok given
    | none => .ok given

/-- Go over options where a fault is not kept. -/
def scanStrictly (rules : List OptionRule) (given : Given) (words : List String) :
    Except Detour Scan := do
  let scan ← scanOptions rules false given words
  match scan.fault with
  | some fault => throw (.usage fault)
  | none => return scan

/-- Go over the words of a command, with its operand among its options. -/
def scanCommand (rule : CommandRule) (options : List OptionRule) (words : List String) :
    Except Detour Given := do
  let first ← scanStrictly options [] words
  match first.rest, rule.operand with
  | word :: rest, some operand =>
    let given ← give first.given operand.name operand.value word
    if first.isPlain then finishWords rule given rest
    else
      let second ← scanStrictly options given rest
      finishWords rule second.given second.rest
  | rest, _ => finishWords rule first.given rest

end NetworkIsolation.CommandLine
