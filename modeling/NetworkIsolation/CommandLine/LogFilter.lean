import NetworkIsolation.CommandLine.LogRule
import NetworkIsolation.Text.Quoted

/-!
# Log filters

Which diagnostic notes are shown.  A filter is a list of rules between commas.
Of the rules that concern a note, the one with the longest path decides, and of
two with one path the one that asks for a field; of two equal ones the later one
counts.
-/

namespace NetworkIsolation.CommandLine

open NetworkIsolation.Backend NetworkIsolation.Text

/-- The rules of a filter, in order. -/
structure LogFilter where
  rules : List LogRule
  deriving DecidableEq, Repr, Inhabited

namespace LogFilter

/-- Show everything down to a level. -/
def upTo (level : Level) : LogFilter :=
  ⟨[{ threshold := some level }]⟩

/-- The more specific of two rules, and the later one of two equal ones. -/
def moreSpecific (earlier later : LogRule) : LogRule :=
  if later.isAsSpecific earlier then later else earlier

/-- The rule that decides about a component. -/
def ruleFor? (filter : LogFilter) (component : Component) : Option LogRule :=
  match filter.rules.filter fun rule => rule.concerns component with
  | [] => none
  | first :: rest => some (rest.foldl moreSpecific first)

/-- Whether a note is shown. -/
def shows (filter : LogFilter) (entry : Note) : Bool :=
  match filter.ruleFor? entry.component with
  | some rule => isShown rule.threshold entry.level
  | none => false

/-- Read a filter, all of its rules or none; one without any rule shows errors. -/
def parse? (text : String) : Option LogFilter := do
  let pieces := ((splitAt ',' text.toList).map String.ofList).filter fun piece => !piece.isEmpty
  let rules ← pieces.mapM LogRule.parse?
  return if rules.isEmpty then upTo .error else ⟨rules⟩

end LogFilter

/-! ## Lines -/

/-- How a character of a note is shown: those that can steer a terminal are spelled out. -/
def shownCharacter (character : Char) : List Char :=
  match character with
  | '\x07' => ['\\', 'x', '0', '7']
  | '\x08' => ['\\', 'x', '0', '8']
  | '\x0c' => ['\\', 'x', '0', 'c']
  | '\x1b' => ['\\', 'x', '1', 'b']
  | '\x7f' => ['\\', 'x', '7', 'f']
  | _ =>
    if 0x80 ≤ character.toNat && character.toNat ≤ 0x9f then
      ['\\', 'u', '\x7b'] ++ hexDigits character.toNat ++ ['\x7d']
    else
      [character]

/-- The line of a note. -/
def logLine (entry : Note) : String :=
  entry.level.word ++ " " ++ String.ofList (entry.message.toList.flatMap shownCharacter) ++ "\n"

end NetworkIsolation.CommandLine
