import NetworkIsolation.Text.Hidden

/-!
# Quoted text in messages

A message quotes a text between double quotes.  Quotes, backslashes and the
usual control characters get a backslash, and every other character without a
shape of its own is written by its code point, as in `\u{200b}`.
-/

namespace NetworkIsolation.Text

/-- The lower-case hexadecimal digits of a number, without leading zeros. -/
def hexDigits (number : Nat) : List Char :=
  Nat.toDigits 16 number

/-- How one character is written between the quotes. -/
def quotedChar (character : Char) : List Char :=
  match character with
  | '"' => ['\\', '"']
  | '\\' => ['\\', '\\']
  | '\t' => ['\\', 't']
  | '\n' => ['\\', 'n']
  | '\r' => ['\\', 'r']
  | '\x00' => ['\\', '0']
  | _ =>
    if isHidden character then
      ['\\', 'u', '\x7b'] ++ hexDigits character.toNat ++ ['\x7d']
    else
      [character]

/-- The text between double quotes, with the characters a reader cannot see escaped. -/
def quoted (text : String) : String :=
  String.ofList ('"' :: text.toList.flatMap quotedChar ++ ['"'])

/-- A list of quoted texts between brackets. -/
def quotedList (texts : List String) : String :=
  "[" ++ ", ".intercalate (texts.map quoted) ++ "]"

/-- A set of quoted texts between braces. -/
def quotedSet (texts : List String) : String :=
  "\x7b" ++ ", ".intercalate (texts.map quoted) ++ "\x7d"

end NetworkIsolation.Text
