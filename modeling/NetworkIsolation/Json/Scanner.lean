import NetworkIsolation.Json.Fault
import NetworkIsolation.Json.Value

/-!
# Scanning JSON text

The leaves of the format: blanks, words, numbers and strings, and the commas,
colons and brackets between them.  Each scanner takes the characters that are
left and gives back what it read and the rest.
-/

namespace NetworkIsolation.Json

open NetworkIsolation.Decimal

/-- The blanks that may stand between two tokens. -/
def isSpace (character : Char) : Bool :=
  character = ' ' || character = '\n' || character = '\t' || character = '\r'

/-- Drop the blanks in front. -/
def skipSpace (text : List Char) : List Char :=
  text.dropWhile isSpace

/-- Read the remaining letters of a word whose first letter has been read. -/
def scanWord : List Char → List Char → Except Fault (List Char)
  | [], text => .ok text
  | _ :: _, [] => .error (.before .endInValue [])
  | letter :: letters, character :: rest =>
    if character = letter then scanWord letters rest
    else .error (.within .expectedWord (character :: rest))

/-! ## Numbers -/

/-- A number as it is written, after its minus sign. -/
structure NumberText where
  whole : List Char
  fraction : List Char
  /-- Whether the exponent is negative, and its digits. -/
  exponent : Option (Bool × List Char)
  deriving DecidableEq, Repr

/--
Read the whole part: a single zero, or digits that do not begin with one.
-/
def scanWhole (atEnd : Malformed) : List Char → Except Fault (List Char × List Char)
  | [] => .error (.before atEnd [])
  | character :: rest =>
    if character = '0' then
      match rest with
      | next :: _ =>
        if next.isDigit then .error (.within .invalidNumber rest) else .ok (['0'], rest)
      | [] => .ok (['0'], rest)
    else if character.isDigit then
      .ok (character :: rest.takeWhile Char.isDigit, rest.dropWhile Char.isDigit)
    else
      .error (.within .invalidNumber (character :: rest))

/-- Read the digits after a point, if there is a point. -/
def scanFraction (atEnd : Malformed) : List Char → Except Fault (List Char × List Char)
  | '.' :: rest =>
    if (rest.takeWhile Char.isDigit).isEmpty then
      .error (if rest.isEmpty then .before atEnd [] else .within .invalidNumber rest)
    else
      .ok (rest.takeWhile Char.isDigit, rest.dropWhile Char.isDigit)
  | text => .ok ([], text)

/-- Read the sign of an exponent. -/
def scanExponentSign : List Char → Bool × List Char
  | '+' :: rest => (false, rest)
  | '-' :: rest => (true, rest)
  | text => (false, text)

/-- Read an exponent, if there is one. -/
def scanExponent (atEnd : Malformed) :
    List Char → Except Fault (Option (Bool × List Char) × List Char)
  | [] => .ok (none, [])
  | mark :: rest =>
    if mark = 'e' || mark = 'E' then
      let (negative, text) := scanExponentSign rest
      if (text.takeWhile Char.isDigit).isEmpty then
        .error (if text.isEmpty then .before atEnd [] else .within .invalidNumber text)
      else
        .ok (some (negative, text.takeWhile Char.isDigit), text.dropWhile Char.isDigit)
    else
      .ok (none, mark :: rest)

/-- Read a number after its minus sign; `atEnd` is the cause when the text ends in it. -/
def scanNumberText (atEnd : Malformed) (text : List Char) :
    Except Fault (NumberText × List Char) := do
  let (whole, text) ← scanWhole atEnd text
  let (fraction, text) ← scanFraction atEnd text
  let (exponent, text) ← scanExponent atEnd text
  return (⟨whole, fraction, exponent⟩, text)

/-- The value of a digit. -/
def digitValue (digit : Char) : Nat :=
  digit.toNat - '0'.toNat

/-- Append digits to a number as long as it stays within a limit, and count them. -/
def absorbDigits (limit : Nat) : Nat → List Char → Nat × Nat
  | number, [] => (number, 0)
  | number, digit :: rest =>
    let longer := number * 10 + digitValue digit
    if longer ≤ limit then
      let (absorbed, count) := absorbDigits limit longer rest
      (absorbed, count + 1)
    else
      (number, 0)

/-- The largest whole number that is kept exactly. -/
def maxInteger : Nat := UInt64.size - 1

/-- The largest whole number that is kept exactly with a minus sign. -/
def maxNegated : Nat := 1 <<< 63

/-- The largest exponent that is looked at. -/
def maxExponent : Nat := 1 <<< 31 - 1

namespace NumberText

/-- Whether the number is written without fraction and exponent. -/
def isWhole (text : NumberText) : Bool :=
  text.fraction.isEmpty && text.exponent.isNone

/-- The significant digits that fit into 64 bits, and the power of ten they count. -/
def significand (text : NumberText) : Nat × Int :=
  let (whole, used) := absorbDigits maxInteger 0 text.whole
  let (both, usedFraction) := absorbDigits maxInteger whole text.fraction
  (both, ((text.whole.length - used : Nat) : Int) - usedFraction)

/-- The double that is written, or none with the number of bytes left when it proved too large. -/
def double? (text : NumberText) (unread : Nat) : Except Nat Nat :=
  let (digits, scale) := text.significand
  let scaled (exponent : Int) : Except Nat Nat :=
    match Double.scaledUnits? digits exponent with
    | some units => .ok units
    | none => .error unread
  match text.exponent with
  | none => scaled scale
  | some (negative, written) =>
    let (exponent, used) := absorbDigits maxExponent 0 written
    if used < written.length then
      if digits != 0 && !negative then .error (unread + (written.length - used - 1)) else .ok 0
    else
      scaled (if negative then scale - exponent else scale + exponent)

/-- The number that is written; `rest` is what follows it. -/
def toNumber (text : NumberText) (negative : Bool) (rest : List Char) : Except Fault Number :=
  let asDouble : Except Fault Number :=
    match text.double? (byteLength rest) with
    | .ok units => .ok (.double ⟨negative, units⟩)
    | .error unread => .error ⟨.malformed .numberOutOfRange, unread⟩
  let (digits, scale) := text.significand
  if text.isWhole && scale = 0 then
    if !negative then .ok (.integer digits)
    else if digits = 0 || maxNegated < digits then asDouble
    else .ok (.integer (-(digits : Int)))
  else
    asDouble

end NumberText

/-- Read a number after its minus sign. -/
def scanNumber (negative : Bool) (text : List Char) : Except Fault (Number × List Char) := do
  let (written, rest) ← scanNumberText .endInValue text
  let number ← written.toNumber negative rest
  return (number, rest)

/-! ## Strings -/

/-- The value of a hexadecimal digit. -/
def hexValue? (character : Char) : Option Nat :=
  let code := character.toNat
  if 0x30 ≤ code && code ≤ 0x39 then some (code - 0x30)
  else if 0x61 ≤ code && code ≤ 0x66 then some (code - 0x61 + 10)
  else if 0x41 ≤ code && code ≤ 0x46 then some (code - 0x41 + 10)
  else none

/-- Read four hexadecimal digits. -/
def scanHex (text : List Char) : Except Fault (Nat × List Char) :=
  let broken : Except Fault (Nat × List Char) :=
    if byteLength text < 4 then .error (.before .endInString [])
    else .error ⟨.malformed .invalidEscape, byteLength text - 4⟩
  match text with
  | a :: b :: c :: d :: rest =>
    match hexValue? a, hexValue? b, hexValue? c, hexValue? d with
    | some a, some b, some c, some d => .ok (((a * 16 + b) * 16 + c) * 16 + d, rest)
    | _, _, _, _ => broken
  | _ => broken

/-- Read an expected character in the middle of a surrogate pair. -/
def scanPairMark (mark : Char) : List Char → Except Fault (List Char)
  | [] => .error (.before .endInString [])
  | character :: rest =>
    if character = mark then .ok rest
    else .error (.within .brokenSurrogatePair (character :: rest))

/-- Read the code point after `\u`: four digits, or two surrogates. -/
def scanCodePoint (text : List Char) : Except Fault (Char × List Char) := do
  let (first, rest) ← scanHex text
  if 0xdc00 ≤ first && first ≤ 0xdfff then
    throw (.before .loneSurrogate rest)
  else if 0xd800 ≤ first && first ≤ 0xdbff then
    let rest ← scanPairMark '\\' rest
    let rest ← scanPairMark 'u' rest
    let (second, rest) ← scanHex rest
    if 0xdc00 ≤ second && second ≤ 0xdfff then
      return (Char.ofNat ((first - 0xd800) * 0x400 + (second - 0xdc00) + 0x10000), rest)
    else
      throw (.before .loneSurrogate rest)
  else
    return (Char.ofNat first, rest)

/-- The character that a one-letter escape stands for. -/
def simpleEscape? (letter : Char) : Option Char :=
  match letter with
  | '"' => some '"'
  | '\\' => some '\\'
  | '/' => some '/'
  | 'b' => some '\x08'
  | 'f' => some '\x0c'
  | 'n' => some '\n'
  | 'r' => some '\r'
  | 't' => some '\t'
  | _ => none

/-- Read an escape after its backslash. -/
def scanEscape : List Char → Except Fault (Char × List Char)
  | [] => .error (.before .endInString [])
  | letter :: rest =>
    if letter = 'u' then
      scanCodePoint rest
    else
      match simpleEscape? letter with
      | some character => .ok (character, rest)
      | none => .error (.within .invalidEscape (letter :: rest))

/-- Read the characters of a string up to its closing quote. -/
def scanStringChars : Nat → List Char → Except Fault (List Char × List Char)
  | 0, _ => .error (.before .endInString [])
  | _, [] => .error (.before .endInString [])
  | fuel + 1, character :: rest =>
    if character = '"' then
      .ok ([], rest)
    else if character = '\\' then do
      let (escaped, rest) ← scanEscape rest
      let (characters, rest) ← scanStringChars fuel rest
      return (escaped :: characters, rest)
    else if character.toNat < 0x20 then
      .error (.before .controlCharacter rest)
    else do
      let (characters, rest) ← scanStringChars fuel rest
      return (character :: characters, rest)

/-- Read a string after its opening quote. -/
def scanString (text : List Char) : Except Fault (String × List Char) := do
  let (characters, rest) ← scanStringChars (text.length + 1) text
  return (String.ofList characters, rest)

/-! ## Lists and objects -/

/-- Whether another item follows, past the comma in front of it. -/
def moreItems (first : Bool) (text : List Char) : Except Fault (Bool × List Char) :=
  match skipSpace text with
  | [] => .error (.before .endInList [])
  | ']' :: rest => .ok (false, ']' :: rest)
  | character :: rest =>
    if first then
      .ok (true, character :: rest)
    else if character = ',' then
      match skipSpace rest with
      | [] => .error (.before .endInValue [])
      | ']' :: rest => .error (.within .trailingComma (']' :: rest))
      | next => .ok (true, next)
    else
      .error (.within .expectedListEnd (character :: rest))

/-- Read the bracket that closes a list. -/
def closeList (text : List Char) : Except Fault (List Char) :=
  match skipSpace text with
  | [] => .error (.before .endInList [])
  | ']' :: rest => .ok rest
  | ',' :: rest =>
    match skipSpace rest with
    | ']' :: rest => .error (.within .trailingComma (']' :: rest))
    | rest => .error (.within .trailingCharacters rest)
  | rest => .error (.within .trailingCharacters rest)

/-- Read the items of a list up to its closing bracket. -/
def scanItems {α : Type} (item : List Char → Except Fault (α × List Char)) :
    Nat → Bool → List Char → Except Fault (List α × List Char)
  | 0, _, _ => .error (.before .endInList [])
  | fuel + 1, first, text => do
    let (more, text) ← moreItems first text
    if more then
      let (value, text) ← item text
      let (values, text) ← scanItems item fuel false text
      return (value :: values, text)
    else
      return ([], text)

/-- Read a list after its opening bracket. -/
def scanList {α : Type} (item : List Char → Except Fault (α × List Char)) (text : List Char) :
    Except Fault (List α × List Char) := do
  let (values, text) ← scanItems item (text.length + 1) true text
  let text ← closeList text
  return (values, text)

/-- Whether another entry follows, up to the quote of its name. -/
def moreEntries (first : Bool) (text : List Char) : Except Fault (Bool × List Char) :=
  match skipSpace text with
  | [] => .error (.before .endInObject [])
  | '}' :: rest => .ok (false, '}' :: rest)
  | character :: rest =>
    if first then
      if character = '"' then .ok (true, character :: rest)
      else .error (.within .keyNotString (character :: rest))
    else if character = ',' then
      match skipSpace rest with
      | [] => .error (.before .endInValue [])
      | '"' :: rest => .ok (true, '"' :: rest)
      | '}' :: rest => .error (.within .trailingComma ('}' :: rest))
      | next => .error (.within .keyNotString next)
    else
      .error (.within .expectedObjectEnd (character :: rest))

/-- Read the colon between a name and its value. -/
def scanColon (text : List Char) : Except Fault (List Char) :=
  match skipSpace text with
  | [] => .error (.before .endInObject [])
  | ':' :: rest => .ok rest
  | rest => .error (.within .expectedColon rest)

/-- Read the brace that closes an object. -/
def closeObject (text : List Char) : Except Fault (List Char) :=
  match skipSpace text with
  | [] => .error (.before .endInObject [])
  | '}' :: rest => .ok rest
  | ',' :: rest => .error (.within .trailingComma (',' :: rest))
  | rest => .error (.within .trailingCharacters rest)

/--
Read the entries of an object up to its closing brace.  `entry` is given what
has been read so far, a name, and the text after the name, colon included.
-/
def scanEntries {σ : Type} (entry : σ → String → List Char → Except Fault (σ × List Char)) :
    Nat → Bool → σ → List Char → Except Fault (σ × List Char)
  | 0, _, _, _ => .error (.before .endInObject [])
  | fuel + 1, first, state, text => do
    let (more, text) ← moreEntries first text
    if more then
      let (name, text) ← scanString (text.drop 1)
      let (state, text) ← entry state name text
      scanEntries entry fuel false state text
    else
      return (state, text)

/-- Read an object after its opening brace. -/
def scanObject {σ : Type} (entry : σ → String → List Char → Except Fault (σ × List Char))
    (start : σ) (text : List Char) : Except Fault (σ × List Char) := do
  let (state, text) ← scanEntries entry (text.length + 1) true start text
  let text ← closeObject text
  return (state, text)

/-- Nothing but blanks may follow a document. -/
def scanEnd (text : List Char) : Except Fault Unit :=
  match skipSpace text with
  | [] => .ok ()
  | rest => .error (.within .trailingCharacters rest)

end NetworkIsolation.Json
