import NetworkIsolation.Backend.State
import NetworkIsolation.Text.Blank
import NetworkIsolation.Text.WordCharacter

/-!
# Log rules

One rule about which diagnostic notes are shown.  It is written as a level, as
a component path, or as both with an equals sign between them.  A path alone
shows everything of the components that it begins.  In brackets behind the path
a rule may name a span, a stretch of work around a note, and in braces a field
of the note with a pattern for its value: `path[span{field=pattern}]=level`.

A note has one field, its message, and lies in no span.  So a rule with a span
or with a pattern is read, and concerns no note.
-/

namespace NetworkIsolation.CommandLine

open NetworkIsolation.Backend NetworkIsolation.Text

/-- The least important level that is shown; nothing at all where there is none. -/
abbrev Threshold := Option Level

/-- Whether notes of a level are shown. -/
def isShown (threshold : Threshold) (level : Level) : Bool :=
  match threshold with
  | some limit => level.depth ≤ limit.depth
  | none => false

/-- What a rule asks of a field: that a note has it, or that its value fits a pattern. -/
structure FieldCondition where
  name : String
  pattern : Option String
  deriving DecidableEq, Repr

/-- A threshold for the notes of some components. -/
structure LogRule where
  /-- How the paths of the components begin. -/
  path : String := ""
  /-- Whether the rule is only about notes in a span. -/
  inSpan : Bool := false
  field : Option FieldCondition := none
  threshold : Threshold
  deriving DecidableEq, Repr

namespace LogRule

/-- The only field of a note. -/
def messageField : String := "message"

/-- Whether the rule is about the notes of a component. -/
def concerns (rule : LogRule) (component : Component) : Bool :=
  !rule.inSpan && component.path.startsWith rule.path &&
    match rule.field with
    | some condition => condition.name = messageField && condition.pattern.isNone
    | none => true

/-- Whether a rule says more exactly than another one, or as exactly, what it is about. -/
def isAsSpecific (rule other : LogRule) : Bool :=
  other.path.utf8ByteSize < rule.path.utf8ByteSize ||
    (other.path.utf8ByteSize = rule.path.utf8ByteSize &&
      (rule.field.isSome || other.field.isNone))

/-! ## Reading levels -/

/-- A text in small letters, where only the letters of ASCII have them. -/
def lowerCase (text : String) : String :=
  String.ofList (text.toList.map Char.toLower)

/-- The number that digits stand for, which may have a plus sign in front. -/
def plainNumber? (text : List Char) : Option Nat :=
  let digits := if text.head? = some '+' then text.drop 1 else text
  if digits.isEmpty || !digits.all Char.isDigit then none
  else some (digits.foldl (fun number digit => number * 10 + (digit.toNat - '0'.toNat)) 0)

/-- The thresholds in order, from the one that shows nothing. -/
def thresholds : List Threshold :=
  [none, some .error, some .warn, some .info, some .debug, some .trace]

/-- The threshold that a word or a number stands for. -/
def threshold? (text : String) : Option Threshold :=
  match plainNumber? text.toList with
  | some number => thresholds[number]?
  | none =>
    match lowerCase text with
    | "off" => some none
    | "error" => some (some .error)
    | "warn" => some (some .warn)
    | "info" => some (some .info)
    | "debug" => some (some .debug)
    | "trace" => some (some .trace)
    | _ => none

/-! ## Reading patterns -/

/-- What follows a class of characters, after its opening bracket and the number of open ones. -/
def afterClass : Nat → List Char → Option (List Char)
  | _, [] => none
  | _, ['\\'] => none
  | inner, '\\' :: _ :: rest => afterClass inner rest
  | inner, '[' :: rest => afterClass (inner + 1) rest
  | 0, ']' :: rest => some rest
  | inner + 1, ']' :: rest => afterClass inner rest
  | inner, _ :: rest => afterClass inner rest

/-- What may stand at the front of a class without closing it. -/
def classStart : List Char → List Char
  | '^' :: ']' :: rest => rest
  | '^' :: rest => rest
  | ']' :: rest => rest
  | text => text

/--
Whether a pattern can be read: its groups and classes are closed, and what
repeats has something to repeat.  `fuel` is at least its length, `groups` the
number of open groups, and `repeatable` says whether there is something in front.
-/
def isPattern : Nat → Nat → Bool → List Char → Bool
  | 0, _, _, _ => false
  | _, groups, _, [] => groups = 0
  | fuel + 1, groups, repeatable, character :: rest =>
    match character with
    | '\\' => !rest.isEmpty && isPattern fuel groups true (rest.drop 1)
    | '(' =>
      if rest.head? = some '?' then isPattern fuel (groups + 1) true (rest.drop 1)
      else isPattern fuel (groups + 1) false rest
    | ')' => groups ≠ 0 && isPattern fuel (groups - 1) true rest
    | '[' =>
      match afterClass 0 (classStart rest) with
      | some rest => isPattern fuel groups true rest
      | none => false
    | '|' => isPattern fuel groups false rest
    | '*' | '+' | '?' => repeatable && isPattern fuel groups true rest
    | '\x7b' => false
    | _ => isPattern fuel groups true rest

/-- Whether a text can be a value: a number with its sign, or a pattern. -/
def isValue (text : List Char) : Bool :=
  (plainNumber? text).isSome || isPattern (text.length + 1) 0 false text

/-- The condition that a text between braces stands for. -/
def condition? (text : List Char) : Option FieldCondition :=
  let name := String.ofList (text.takeWhile (· ≠ '='))
  match text.dropWhile (· ≠ '=') with
  | [] => some ⟨name, none⟩
  | _ :: rest =>
    let value := rest.takeWhile (· ≠ '=')
    if isValue value then some ⟨name, some (String.ofList value)⟩ else none

/-! ## Reading rules -/

/-- The length of a text in bytes. -/
def byteCount (text : List Char) : Nat :=
  text.foldl (fun count character => count + character.utf8Size) 0

/-- What is left of a text without its first bytes; no character may be cut. -/
def dropBytes : Nat → List Char → Option (List Char)
  | 0, text => some text
  | _, [] => none
  | bytes, character :: rest =>
    if character.utf8Size ≤ bytes then dropBytes (bytes - character.utf8Size) rest else none

/-- The first bytes of a text; no character may be cut. -/
def takeBytes : Nat → List Char → Option (List Char)
  | 0, _ => some []
  | _, [] => none
  | bytes, character :: rest =>
    if character.utf8Size ≤ bytes then
      (takeBytes (bytes - character.utf8Size) rest).map (character :: ·)
    else
      none

/-- Some bytes of a text from a distance on. -/
def cut (text : List Char) (start length : Nat) : Option (List Char) := do
  takeBytes length (← dropBytes start text)

/-- The threshold that stands from a distance on, where nothing stands for everything. -/
def thresholdFrom (text : List Char) (start : Nat) : Option Threshold := do
  let level ← dropBytes start text
  if level.isEmpty then some (some .trace) else threshold? (String.ofList level)

/-- Whether a rule may begin with a character. -/
def mayBegin (character : Char) : Bool :=
  ['[', '-', ':', '_'].contains character || isWordCharacter character

/--
What stands in brackets: whether it names a span, how far the text between
braces is from the front and how long it is, and what follows the brackets.
-/
def bracketed? (inner : List Char) : Option (Bool × Option (Nat × Nat) × List Char) :=
  let span := inner.takeWhile fun character => character ≠ ']' && character ≠ '\x7b'
  match inner.drop span.length with
  | [] => none
  | ']' :: after => some (true, none, after)
  | _ :: braces =>
    let field := braces.takeWhile (· ≠ '\x7d')
    match braces.drop field.length with
    | _ :: ']' :: after =>
      if field.isEmpty then none
      else some (!span.isEmpty, some (byteCount span + 1, byteCount field), after)
    | _ => none

/--
The rule that a text stands for.  Blanks around it do not count where its parts
are told apart, but each part is cut out of the whole text, at its distance from
the first character that counts.
-/
def parse? (text : String) : Option LogRule := do
  let whole := text.toList
  let shape := trimChars whole
  let first ← shape.head?
  if !mayBegin first then none
  else
    let path := shape.takeWhile fun character => character ≠ '=' && character ≠ '['
    match shape.drop path.length with
    | [] =>
      match threshold? text with
      | some threshold => some { threshold }
      | none => some { path := text, threshold := some .trace }
    | '=' :: _ => do
      let name ← cut whole 0 (byteCount path)
      let threshold ← thresholdFrom whole (byteCount path + 1)
      some { path := String.ofList name, threshold }
    | _ :: inner => do
      let name ← cut whole 0 (byteCount path)
      let (inSpan, place, after) ← bracketed? inner
      let field ←
        match place with
        | none => some none
        | some (start, length) => do
          let field ← cut whole (byteCount path + 1 + start) length
          (condition? field).map some
      let threshold ←
        match after with
        | [] => some (some .trace)
        | '=' :: level => thresholdFrom whole (byteCount shape - byteCount level)
        | _ => none
      some { path := String.ofList name, inSpan, field, threshold }

end LogRule

end NetworkIsolation.CommandLine
