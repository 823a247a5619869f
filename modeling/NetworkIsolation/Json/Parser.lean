import NetworkIsolation.Json.Scanner

/-!
# Parsing JSON values

`Value.read` reads one value and gives back the rest of the text; the number
it takes is how many more brackets may be opened, and a text may open 127.
A repeated name keeps its first position and takes the last value.

`skipValue` passes over a value that nobody asked for.  It checks less: it
opens any number of brackets and does not look at the size of numbers or at
surrogates.
-/

namespace NetworkIsolation.Json

/-- How many brackets of a text may be open at once. -/
def maxNesting : Nat := 127

namespace Value

/-- Read one value with room for the given number of open brackets. -/
def read : Nat → List Char → Except Fault (Value × List Char)
  | room, text =>
    match skipSpace text with
    | [] => .error (.before .endInValue [])
    | character :: rest =>
      if character = 'n' then do
        let rest ← scanWord ['u', 'l', 'l'] rest
        return (.null, rest)
      else if character = 't' then do
        let rest ← scanWord ['r', 'u', 'e'] rest
        return (.bool true, rest)
      else if character = 'f' then do
        let rest ← scanWord ['a', 'l', 's', 'e'] rest
        return (.bool false, rest)
      else if character = '-' then do
        let (magnitude, rest) ← scanNumber true rest
        return (.number magnitude, rest)
      else if character.isDigit then do
        let (magnitude, rest) ← scanNumber false (character :: rest)
        return (.number magnitude, rest)
      else if character = '"' then do
        let (characters, rest) ← scanString rest
        return (.string characters, rest)
      else if character = '[' then
        match room with
        | 0 => .error (.within .nestedTooDeep (character :: rest))
        | room + 1 => do
          let (items, rest) ← scanList (fun text => read room text) rest
          return (.array items, rest)
      else if character = '{' then
        match room with
        | 0 => .error (.within .nestedTooDeep (character :: rest))
        | room + 1 => do
          let (entries, rest) ← scanObject
            (fun (entries : Bucket) name text => do
              let text ← scanColon text
              let (value, text) ← read room text
              return (entries.insert name value, text))
            [] rest
          return (.object entries, rest)
      else
        .error (.within .expectedValue (character :: rest))

/-- Read a text that holds one value and nothing else. -/
def parse (text : String) : Except DecodeError Value :=
  let characters := text.toList
  let document := do
    let (value, rest) ← read maxNesting characters
    scanEnd rest
    return value
  document.mapError fun fault => fault.locate characters

end Value

/-! ## Passing over values -/

/-- Pass over a string after its opening quote. -/
def skipString : Nat → List Char → Except Fault (List Char)
  | 0, _ => .error (.before .endInString [])
  | _, [] => .error (.before .endInString [])
  | fuel + 1, character :: rest =>
    if character = '"' then
      .ok rest
    else if character = '\\' then
      match rest with
      | [] => .error (.before .endInString [])
      | letter :: rest =>
        if letter = 'u' then do
          let (_, rest) ← scanHex rest
          skipString fuel rest
        else if (simpleEscape? letter).isSome then
          skipString fuel rest
        else
          .error (.within .invalidEscape (letter :: rest))
    else if character.toNat < 0x20 then
      .error (.before .controlCharacter (character :: rest))
    else
      skipString fuel rest

/-- An opened bracket that waits for its partner. -/
inductive Bracket where
  | list
  | object
  deriving DecidableEq

namespace Bracket

/-- The character that closes the bracket. -/
def closing : Bracket → Char
  | .list => ']'
  | .object => '}'

/-- What is wrong when the text ends inside the bracket. -/
def atEnd : Bracket → Malformed
  | .list => .endInList
  | .object => .endInObject

/-- What is wrong when neither a comma nor the closing character follows. -/
def unclosed : Bracket → Malformed
  | .list => .expectedListEnd
  | .object => .expectedObjectEnd

end Bracket

/-- Pass over the name and the colon in front of a value, if the bracket asks for them. -/
def skipName (bracket : Bracket) (text : List Char) : Except Fault (List Char) :=
  match bracket with
  | .list => .ok text
  | .object =>
    match skipSpace text with
    | [] => .error (.before .endInObject [])
    | '"' :: rest => do
      let rest ← skipString (rest.length + 1) rest
      scanColon rest
    | rest => .error (.within .keyNotString rest)

/--
After a value: leave every bracket that closes, up to a comma.  Gives the
brackets still open, or nothing when the outermost value is complete.
-/
def skipClosing : Nat → List Bracket → List Char →
    Except Fault (Option (List Bracket) × List Char)
  | 0, _, _ => .error (.before .endInValue [])
  | _, [], text => .ok (none, text)
  | fuel + 1, bracket :: outer, text =>
    match skipSpace text with
    | [] => .error (.before bracket.atEnd [])
    | character :: rest =>
      if character = ',' then do
        let rest ← skipName bracket rest
        return (some (bracket :: outer), rest)
      else if character = bracket.closing then
        skipClosing fuel outer rest
      else
        .error (.within bracket.unclosed (character :: rest))

/-- Pass over a number after its minus sign. -/
def skipNumber (text : List Char) : Except Fault (List Char) := do
  let (_, rest) ← scanNumberText .invalidNumber text
  return rest

/-- Pass over values until every bracket is closed. -/
def skipValues : Nat → List Bracket → List Char → Except Fault (List Char)
  | 0, _, _ => .error (.before .endInValue [])
  | fuel + 1, brackets, text =>
    let finish (rest : List Char) : Except Fault (List Char) := do
      let (open?, rest) ← skipClosing (brackets.length + 1) brackets rest
      match open? with
      | none => return rest
      | some brackets => skipValues fuel brackets rest
    let enter (bracket : Bracket) (rest : List Char) : Except Fault (List Char) :=
      match skipSpace rest with
      | [] => .error (.before bracket.atEnd [])
      | character :: rest =>
        if character = bracket.closing then
          finish rest
        else do
          let rest ← skipName bracket (character :: rest)
          skipValues fuel (bracket :: brackets) rest
    match skipSpace text with
    | [] => .error (.before .endInValue [])
    | character :: rest =>
      if character = 'n' then do
        finish (← scanWord ['u', 'l', 'l'] rest)
      else if character = 't' then do
        finish (← scanWord ['r', 'u', 'e'] rest)
      else if character = 'f' then do
        finish (← scanWord ['a', 'l', 's', 'e'] rest)
      else if character = '-' then do
        finish (← skipNumber rest)
      else if character.isDigit then do
        finish (← skipNumber (character :: rest))
      else if character = '"' then do
        finish (← skipString (rest.length + 1) rest)
      else if character = '[' then
        enter .list rest
      else if character = '{' then
        enter .object rest
      else
        .error (.within .expectedValue (character :: rest))

/-- Pass over one value. -/
def skipValue (text : List Char) : Except Fault (List Char) :=
  skipValues (text.length + 1) [] text

end NetworkIsolation.Json
