import NetworkIsolation.Json.Value

/-!
# Printing JSON

The compact form has no blanks and is what checksums are taken of and what
tools are fed with.  The pretty form is indented by two blanks a level and is
what files on disk and `--json` output hold; empty arrays and objects stay on
one line in it.

Strings escape quotes, backslashes and the characters below U+0020, and keep
everything else as it is.  A double is written with its shortest digits and
always looks like a double.
-/

namespace NetworkIsolation.Json

open NetworkIsolation.Decimal

/-- Doubles are positional for leading exponents from -5 to 15, and scientific beyond. -/
def doubleLayout : Layout where
  positionalFrom := -5
  positionalTo := 15
  wholeSuffix := ['.', '0']
  exponentMark := ['e']
  plusSign := true

/-- A hexadecimal digit in lower case. -/
def hexDigit (value : Nat) : Char :=
  Nat.digitChar value

/-- How one character is written between the quotes of a string. -/
def escapeChar (character : Char) : List Char :=
  match character with
  | '"' => ['\\', '"']
  | '\\' => ['\\', '\\']
  | '\x08' => ['\\', 'b']
  | '\x0c' => ['\\', 'f']
  | '\n' => ['\\', 'n']
  | '\r' => ['\\', 'r']
  | '\t' => ['\\', 't']
  | _ =>
    if character.toNat < 0x20 then
      ['\\', 'u', '0', '0', hexDigit (character.toNat / 16), hexDigit (character.toNat % 16)]
    else
      [character]

/-- A string between double quotes. -/
def stringChars (text : String) : List Char :=
  '"' :: text.toList.flatMap escapeChar ++ ['"']

/-- The decimal digits of an integer. -/
def integerChars (value : Int) : List Char :=
  if value < 0 then '-' :: Nat.toDigits 10 value.natAbs else Nat.toDigits 10 value.natAbs

/-- The text of a number. -/
def Number.chars : Number → List Char
  | .integer value => integerChars value
  | .double value => doubleLayout.write value

namespace Value

mutual

/-- The compact form. -/
def compactChars : Value → List Char
  | .null => ['n', 'u', 'l', 'l']
  | .bool true => ['t', 'r', 'u', 'e']
  | .bool false => ['f', 'a', 'l', 's', 'e']
  | .number value => value.chars
  | .string value => stringChars value
  | .array items => '[' :: (compactItems items ++ [']'])
  | .object entries => '{' :: (compactEntries entries ++ ['}'])

/-- The items of an array with commas in between. -/
def compactItems : List Value → List Char
  | [] => []
  | [item] => compactChars item
  | item :: rest => compactChars item ++ ',' :: compactItems rest

/-- The entries of an object with commas in between. -/
def compactEntries : List (String × Value) → List Char
  | [] => []
  | [(name, value)] => stringChars name ++ ':' :: compactChars value
  | (name, value) :: rest =>
    stringChars name ++ ':' :: (compactChars value ++ ',' :: compactEntries rest)

end

/-- A line break and the indentation of a level. -/
def breakLine (level : Nat) : List Char :=
  '\n' :: List.replicate (2 * level) ' '

mutual

/-- The pretty form at an indentation level. -/
def prettyChars (level : Nat) : Value → List Char
  | .null => ['n', 'u', 'l', 'l']
  | .bool true => ['t', 'r', 'u', 'e']
  | .bool false => ['f', 'a', 'l', 's', 'e']
  | .number value => value.chars
  | .string value => stringChars value
  | .array [] => ['[', ']']
  | .array (item :: items) =>
    '[' :: (prettyItems (level + 1) (item :: items) ++ (breakLine level ++ [']']))
  | .object [] => ['{', '}']
  | .object (entry :: entries) =>
    '{' :: (prettyEntries (level + 1) (entry :: entries) ++ (breakLine level ++ ['}']))

/-- The items of an array, each on its own line. -/
def prettyItems (level : Nat) : List Value → List Char
  | [] => []
  | [item] => breakLine level ++ prettyChars level item
  | item :: rest => breakLine level ++ (prettyChars level item ++ ',' :: prettyItems level rest)

/-- The entries of an object, each on its own line. -/
def prettyEntries (level : Nat) : List (String × Value) → List Char
  | [] => []
  | [(name, value)] =>
    breakLine level ++ (stringChars name ++ ':' :: ' ' :: prettyChars level value)
  | (name, value) :: rest =>
    breakLine level ++
      (stringChars name ++
        ':' :: ' ' :: (prettyChars level value ++ ',' :: prettyEntries level rest))

end

/-- The compact text of a value. -/
def compact (value : Value) : String :=
  String.ofList value.compactChars

/-- The pretty text of a value. -/
def pretty (value : Value) : String :=
  String.ofList (value.prettyChars 0)

end Value

end NetworkIsolation.Json
