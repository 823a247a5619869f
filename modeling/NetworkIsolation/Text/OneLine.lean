import NetworkIsolation.Text.Blank

/-!
# One-line diagnostics

Tools answer with diagnostics of several lines, and a report has room for one.
`oneLine` keeps every line that has anything on it, trimmed and in order, and
puts `"; "` between two of them.
-/

namespace NetworkIsolation.Text

/-- Put a separator between the pieces. -/
def joinWith (separator : List Char) : List (List Char) → List Char
  | [] => []
  | [piece] => piece
  | piece :: pieces => piece ++ separator ++ joinWith separator pieces

/-- A line without the carriage return that its line feed takes along. -/
def withoutReturn (line : List Char) : List Char :=
  if line.getLast? = some '\r' then line.dropLast else line

/--
The lines of a text.  Each ends with a line feed, alone or behind a carriage return, and
what stands behind the last one is a line only if there is anything.
-/
def lines (characters : List Char) : List (List Char) :=
  let pieces := splitAt '\n' characters
  pieces.dropLast.map withoutReturn ++ (pieces.getLast?.toList.filter fun piece => !piece.isEmpty)

/-- The lines with anything on them, trimmed, with `"; "` in between. -/
def oneLineChars (characters : List Char) : List Char :=
  joinWith [';', ' '] (((lines characters).map trimChars).filter fun line => !line.isEmpty)

/-- Collapse a diagnostic of several lines into one line. -/
def oneLine (message : String) : String :=
  String.ofList (oneLineChars message.toList)

end NetworkIsolation.Text
