import NetworkIsolation.Document.Mismatch

/-!
# Faults in JSON text

Reading stops at the first fault.  A fault says what is wrong and how many
bytes of the text had not been read by then; that number and the text give the
line and the column of the message.
-/

namespace NetworkIsolation.Json

open NetworkIsolation.Document

/-- Why a text is no JSON. -/
inductive Malformed where
  | expectedValue
  | expectedWord
  | endInValue
  | endInList
  | endInObject
  | endInString
  | trailingComma
  | trailingCharacters
  | keyNotString
  | expectedColon
  | expectedListEnd
  | expectedObjectEnd
  | invalidNumber
  | numberOutOfRange
  | invalidEscape
  | brokenSurrogatePair
  | loneSurrogate
  | controlCharacter
  | nestedTooDeep
  deriving DecidableEq, Repr

/-- The words for a malformed text. -/
def Malformed.message : Malformed → String
  | .expectedValue => "expected value"
  | .expectedWord => "expected ident"
  | .endInValue => "EOF while parsing a value"
  | .endInList => "EOF while parsing a list"
  | .endInObject => "EOF while parsing an object"
  | .endInString => "EOF while parsing a string"
  | .trailingComma => "trailing comma"
  | .trailingCharacters => "trailing characters"
  | .keyNotString => "key must be a string"
  | .expectedColon => "expected `:`"
  | .expectedListEnd => "expected `,` or `]`"
  | .expectedObjectEnd => "expected `,` or `\x7d`"
  | .invalidNumber => "invalid number"
  | .numberOutOfRange => "number out of range"
  | .invalidEscape => "invalid escape"
  | .brokenSurrogatePair => "unexpected end of hex escape"
  | .loneSurrogate => "lone leading surrogate in hex escape"
  | .controlCharacter => "control character (\\u0000-\\u001F) found while parsing a string"
  | .nestedTooDeep => "recursion limit exceeded"

/-- What is wrong with a text: it is no JSON, or not the JSON that was asked for. -/
inductive Problem where
  | malformed (cause : Malformed)
  | mismatch (cause : Mismatch)
  deriving DecidableEq, Repr

/-- The words for a problem, without a place. -/
def Problem.message : Problem → String
  | .malformed cause => cause.message
  | .mismatch cause => cause.message

/-- A problem, and the number of bytes that were left when it was met. -/
structure Fault where
  problem : Problem
  unread : Nat
  deriving DecidableEq, Repr

/-- The length of a text in bytes. -/
def byteLength (characters : List Char) : Nat :=
  characters.foldl (fun length character => length + character.utf8Size) 0

namespace Fault

/-- The text is malformed in front of the given rest. -/
def before (cause : Malformed) (rest : List Char) : Fault :=
  ⟨.malformed cause, byteLength rest⟩

/-- The text is malformed at the first byte of the given rest. -/
def within (cause : Malformed) (rest : List Char) : Fault :=
  ⟨.malformed cause, byteLength rest - 1⟩

/-- A value in front of the given rest has the wrong shape. -/
def wrongShape (cause : Mismatch) (rest : List Char) : Fault :=
  ⟨.mismatch cause, byteLength rest⟩

end Fault

/-- A line, counted from one, and a number of bytes since its beginning. -/
structure Place where
  line : Nat
  column : Nat
  deriving DecidableEq, Repr

/-- The place that is reached from another one by reading a number of bytes. -/
def Place.advance : List Char → Nat → Place → Place
  | [], _, place => place
  | character :: rest, bytes, place =>
    if bytes = 0 then
      place
    else if bytes < character.utf8Size then
      { place with column := place.column + bytes }
    else if character = '\n' then
      advance rest (bytes - character.utf8Size) ⟨place.line + 1, 0⟩
    else
      advance rest (bytes - character.utf8Size)
        { place with column := place.column + character.utf8Size }

/-- Why decoding a text failed, and where. -/
structure DecodeError where
  problem : Problem
  place : Place
  deriving DecidableEq, Repr

/-- The message of a decoding error, which ends with its place. -/
def DecodeError.message (error : DecodeError) : String :=
  error.problem.message ++ " at line " ++ toString error.place.line ++ " column " ++
    toString error.place.column

/-- Place a fault in its text. -/
def Fault.locate (fault : Fault) (text : List Char) : DecodeError :=
  ⟨fault.problem, Place.advance text (byteLength text - fault.unread) ⟨1, 0⟩⟩

end NetworkIsolation.Json
