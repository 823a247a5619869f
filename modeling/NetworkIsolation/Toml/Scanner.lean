import NetworkIsolation.Toml.Value

/-!
# Scanning TOML text

The leaves of the format: blanks, comments and line ends, keys, strings,
numbers and dates.  A scanner gives what it read and the rest, or nothing when
the text does not fit; only whether a text is well formed matters here, never
where it is not.
-/

namespace NetworkIsolation.Toml

open NetworkIsolation.Decimal

/-- A scanner takes the characters that are left. -/
abbrev Scan (α : Type) := List Char → Option (α × List Char)

/-- A blank or a tab. -/
def isSpace (character : Char) : Bool :=
  character = ' ' || character = '\t'

/-- Drop the blanks in front. -/
def skipSpace (text : List Char) : List Char :=
  text.dropWhile isSpace

/-- Characters other than control characters; a tab counts as printable. -/
def isPrintable (character : Char) : Bool :=
  character = '\t' || (0x20 ≤ character.toNat && character.toNat ≠ 0x7f)

/-- Read a line break. -/
def scanNewline : List Char → Option (List Char)
  | '\n' :: rest => some rest
  | '\r' :: '\n' :: rest => some rest
  | _ => none

/-- Drop a comment in front, up to the end of its line. -/
def skipComment : List Char → List Char
  | '#' :: rest => rest.dropWhile isPrintable
  | text => text

/-- Read what may follow on a line: blanks, a comment, and the end of the line. -/
def scanLineEnd (text : List Char) : Option (List Char) :=
  match skipComment (skipSpace text) with
  | [] => some []
  | rest => scanNewline rest

/-- Drop blanks, comments and line breaks in front. -/
def skipLines : Nat → List Char → List Char
  | 0, text => text
  | fuel + 1, text =>
    match scanNewline (skipComment (skipSpace text)) with
    | some rest => skipLines fuel rest
    | none => skipSpace text

/-- Read a given word. -/
def scanWord : List Char → List Char → Option (List Char)
  | [], text => some text
  | letter :: letters, character :: rest =>
    if letter = character then scanWord letters rest else none
  | _ :: _, [] => none

/-! ## Strings -/

/-- The value of a digit in a base of at most sixteen. -/
def digitIn? (base : Nat) (character : Char) : Option Nat :=
  let code := character.toNat
  let value :=
    if 0x30 ≤ code && code ≤ 0x39 then code - 0x30
    else if 0x61 ≤ code && code ≤ 0x66 then code - 0x61 + 10
    else if 0x41 ≤ code && code ≤ 0x46 then code - 0x41 + 10
    else base
  if value < base then some value else none

/-- Read a number of hexadecimal digits. -/
def scanHex : Nat → Nat → Scan Nat
  | 0, value, text => some (value, text)
  | count + 1, value, character :: rest => do
    let digit ← digitIn? 16 character
    scanHex count (value * 16 + digit) rest
  | _ + 1, _, [] => none

/-- Read a code point of the given number of digits; a surrogate is none. -/
def scanCodePoint (digits : Nat) : Scan Char := fun text => do
  let (code, rest) ← scanHex digits 0 text
  if code < 0xd800 || (0xdfff < code && code < 0x110000) then
    return (Char.ofNat code, rest)
  else
    none

/-- Read an escape after its backslash. -/
def scanEscape : Scan Char
  | 'b' :: rest => some ('\x08', rest)
  | 't' :: rest => some ('\t', rest)
  | 'n' :: rest => some ('\n', rest)
  | 'f' :: rest => some ('\x0c', rest)
  | 'r' :: rest => some ('\r', rest)
  | '"' :: rest => some ('"', rest)
  | '\\' :: rest => some ('\\', rest)
  | 'u' :: rest => scanCodePoint 4 rest
  | 'U' :: rest => scanCodePoint 8 rest
  | _ => none

/-- Read a basic string after its opening quote. -/
def scanBasic : Nat → Scan (List Char)
  | 0, _ => none
  | _, [] => none
  | fuel + 1, character :: rest =>
    if character = '"' then
      some ([], rest)
    else if character = '\\' then do
      let (escaped, rest) ← scanEscape rest
      let (characters, rest) ← scanBasic fuel rest
      return (escaped :: characters, rest)
    else if isPrintable character then do
      let (characters, rest) ← scanBasic fuel rest
      return (character :: characters, rest)
    else
      none

/-- Read a literal string after its opening quote. -/
def scanLiteral : Scan (List Char)
  | [] => none
  | character :: rest =>
    if character = '\'' then
      some ([], rest)
    else if isPrintable character then do
      let (characters, rest) ← scanLiteral rest
      return (character :: characters, rest)
    else
      none

/-- Drop blanks and line breaks after an escaped line break. -/
def skipBlankLines : Nat → List Char → List Char
  | 0, text => text
  | fuel + 1, text =>
    match scanNewline (skipSpace text) with
    | some rest => skipBlankLines fuel rest
    | none => skipSpace text

/--
Read a string of several lines after its opening quotes and the line break that
may follow them.  Three quotes close it; one or two more in front of them
belong to the string.
-/
def scanMultiline (quote : Char) (escapes : Bool) : Nat → Scan (List Char)
  | 0, _ => none
  | _, [] => none
  | fuel + 1, character :: rest =>
    if character = quote then
      let count := ((character :: rest).takeWhile (· = quote)).length
      if count < 3 then do
        let (characters, rest) ← scanMultiline quote escapes fuel rest
        return (quote :: characters, rest)
      else
        let kept := min (count - 3) 2
        some (List.replicate kept quote, (character :: rest).drop (kept + 3))
    else if character = '\\' && escapes then
      match scanNewline (skipSpace rest) with
      | some rest => scanMultiline quote escapes fuel (skipBlankLines rest.length rest)
      | none => do
        let (escaped, rest) ← scanEscape rest
        let (characters, rest) ← scanMultiline quote escapes fuel rest
        return (escaped :: characters, rest)
    else if isPrintable character then do
      let (characters, rest) ← scanMultiline quote escapes fuel rest
      return (character :: characters, rest)
    else do
      let rest ← scanNewline (character :: rest)
      let (characters, rest) ← scanMultiline quote escapes fuel rest
      return ('\n' :: characters, rest)

/-- Drop one line break in front, if there is one. -/
def skipNewline (text : List Char) : List Char :=
  (scanNewline text).getD text

/-- Read a string of any kind. -/
def scanString : Scan String := fun text => do
  let (characters, rest) ←
    match text with
    | '"' :: '"' :: '"' :: rest =>
      scanMultiline '"' true (rest.length + 1) (skipNewline rest)
    | '"' :: rest => scanBasic (rest.length + 1) rest
    | '\'' :: '\'' :: '\'' :: rest =>
      scanMultiline '\'' false (rest.length + 1) (skipNewline rest)
    | '\'' :: rest => scanLiteral rest
    | _ => none
  return (String.ofList characters, rest)

/-! ## Keys -/

/-- The characters of a key without quotes. -/
def isBareKey (character : Char) : Bool :=
  character.isAlphanum || character = '-' || character = '_'

/-- Read one part of a key. -/
def scanSimpleKey : Scan String
  | '"' :: rest => do
    let (characters, rest) ← scanBasic (rest.length + 1) rest
    return (String.ofList characters, rest)
  | '\'' :: rest => do
    let (characters, rest) ← scanLiteral rest
    return (String.ofList characters, rest)
  | text =>
    if (text.takeWhile isBareKey).isEmpty then none
    else some (String.ofList (text.takeWhile isBareKey), text.dropWhile isBareKey)

/-- Read the parts of a key between dots, with the blanks around them. -/
def scanKeyParts : Nat → Scan (List String)
  | 0, _ => none
  | fuel + 1, text => do
    let (part, rest) ← scanSimpleKey (skipSpace text)
    match skipSpace rest with
    | '.' :: rest => do
      let (parts, rest) ← scanKeyParts fuel rest
      return (part :: parts, rest)
    | rest => return ([part], rest)

/-- How many parts a key may not reach, and how many brackets may not be open at once. -/
def nestingLimit : Nat := 80

/-- Read a key. -/
def scanKey : Scan (List String) := fun text => do
  let (parts, rest) ← scanKeyParts (text.length + 1) text
  if parts.length < nestingLimit then return (parts, rest) else none

/-! ## Numbers -/

/-- Read digits of a base, where single underscores may stand between two of them. -/
def scanDigits (base : Nat) : Nat → Scan (List Char)
  | 0, _ => none
  | _, [] => none
  | fuel + 1, character :: rest =>
    if (digitIn? base character).isNone then
      none
    else
      match rest with
      | '_' :: rest => do
        let (digits, rest) ← scanDigits base fuel rest
        return (character :: digits, rest)
      | next :: _ =>
        if (digitIn? base next).isSome then do
          let (digits, rest) ← scanDigits base fuel rest
          return (character :: digits, rest)
        else
          some ([character], rest)
      | [] => some ([character], [])

/-- The number that digits stand for. -/
def digitsValue (base : Nat) (digits : List Char) : Nat :=
  digits.foldl (fun value digit => value * base + (digitIn? base digit).getD 0) 0

/-- Read a sign, if there is one; true for a minus sign. -/
def scanSign : List Char → Bool × List Char
  | '+' :: rest => (false, rest)
  | '-' :: rest => (true, rest)
  | text => (false, text)

/-- Read the digits of a decimal integer: a zero alone, or digits that begin with another one. -/
def scanDecimalDigits : Scan (List Char)
  | '0' :: rest => some (['0'], rest)
  | text => scanDigits 10 (text.length + 1) text

/-- Read an integer. -/
def scanInteger : Scan Int := fun text => do
  let bounded (value : Int) (rest : List Char) : Option (Int × List Char) :=
    if Int64.minValue.toInt ≤ value && value ≤ Int64.maxValue.toInt then some (value, rest)
    else none
  let inBase (base : Nat) (rest : List Char) : Option (Int × List Char) := do
    let (digits, rest) ← scanDigits base (rest.length + 1) rest
    bounded (digitsValue base digits) rest
  match text with
  | '0' :: 'x' :: rest => inBase 16 rest
  | '0' :: 'o' :: rest => inBase 8 rest
  | '0' :: 'b' :: rest => inBase 2 rest
  | _ =>
    let (negative, rest) := scanSign text
    let (digits, rest) ← scanDecimalDigits rest
    let magnitude : Int := digitsValue 10 digits
    bounded (if negative then -magnitude else magnitude) rest

/-- Read the exponent of a float, if there is one. -/
def scanExponent : Scan (Option Int)
  | [] => some (none, [])
  | mark :: rest =>
    if mark = 'e' || mark = 'E' then do
      let (negative, rest) := scanSign rest
      let (digits, rest) ← scanDigits 10 (rest.length + 1) rest
      let magnitude : Int := digitsValue 10 digits
      return (some (if negative then -magnitude else magnitude), rest)
    else
      some (none, mark :: rest)

/-- Exponents beyond this make every number zero or infinite. -/
def exponentBound : Nat := 5000

/-- The float nearest to `digits * 10 ^ exponent`. -/
def nearestReal (negative : Bool) (digits : Nat) (exponent : Int) : Real :=
  let size : Int := (Nat.toDigits 10 digits).length
  let units :=
    if digits = 0 || exponent + size < -exponentBound then 0
    else if (exponentBound : Int) < exponent + size then Double.overflowUnits
    else if exponent < 0 then
      Double.nearestUnits (digits * Double.unitsPerOne) (Nat.pow 10 exponent.natAbs)
    else
      Double.nearestUnits (digits * Nat.pow 10 exponent.toNat * Double.unitsPerOne) 1
  if units < Double.overflowUnits then .finite ⟨negative, units⟩ else .infinite negative

/-- Read a float with a fraction or an exponent; one that is too large and positive is none. -/
def scanOrdinaryFloat : Scan Real := fun text => do
  let (negative, rest) := scanSign text
  let (whole, rest) ← scanDecimalDigits rest
  let (fraction, rest) ←
    match rest with
    | '.' :: rest => scanDigits 10 (rest.length + 1) rest
    | _ => some ([], rest)
  let (exponent, rest) ← scanExponent rest
  if fraction.isEmpty && exponent.isNone then
    none
  else
    let value := nearestReal negative (digitsValue 10 (whole ++ fraction))
      (exponent.getD 0 - fraction.length)
    if value = .infinite false then none else return (value, rest)

/-- Read a float. -/
def scanFloat : Scan Real := fun text =>
  let (negative, rest) := scanSign text
  match rest with
  | 'i' :: 'n' :: 'f' :: rest => some (.infinite negative, rest)
  | 'n' :: 'a' :: 'n' :: rest => some (.undefined, rest)
  | _ => scanOrdinaryFloat text

/-! ## Dates and times -/

/-- Read a number of a fixed count of digits within a range. -/
def scanField (count low high : Nat) (text : List Char) : Option (List Char) :=
  let digits := text.take count
  if digits.length = count && digits.all Char.isDigit &&
      low ≤ digitsValue 10 digits && digitsValue 10 digits ≤ high then
    some (text.drop count)
  else
    none

/-- The number of days in a month. -/
def daysInMonth (year month : Nat) : Nat :=
  if month = 2 then
    if year % 4 = 0 && (year % 100 ≠ 0 || year % 400 = 0) then 29 else 28
  else if month = 4 || month = 6 || month = 9 || month = 11 then 30
  else 31

/-- Read a date. -/
def scanDate (text : List Char) : Option (List Char) := do
  let rest ← scanField 4 0 9999 text
  let rest ← scanWord ['-'] rest
  let rest ← scanField 2 1 12 rest
  let rest ← scanWord ['-'] rest
  let year := digitsValue 10 (text.take 4)
  let month := digitsValue 10 ((text.drop 5).take 2)
  scanField 2 1 (daysInMonth year month) rest

/-- Read a time of day. -/
def scanTime (text : List Char) : Option (List Char) := do
  let rest ← scanField 2 0 23 text
  let rest ← scanWord [':'] rest
  let rest ← scanField 2 0 59 rest
  let rest ← scanWord [':'] rest
  let rest ← scanField 2 0 60 rest
  match rest with
  | '.' :: digit :: rest =>
    if digit.isDigit then some (rest.dropWhile Char.isDigit) else some ('.' :: digit :: rest)
  | _ => some rest

/-- Read the offset of a time zone, if there is one. -/
def skipOffset (text : List Char) : List Char :=
  match text with
  | 'Z' :: rest => rest
  | 'z' :: rest => rest
  | sign :: rest =>
    if sign = '+' || sign = '-' then
      let offset := do
        let rest ← scanField 2 0 23 rest
        let rest ← scanWord [':'] rest
        scanField 2 0 59 rest
      offset.getD text
    else
      text
  | [] => []

/-- Read what may follow a date: a time and its offset. -/
def skipTimeOfDate (text : List Char) : List Char :=
  match text with
  | mark :: rest =>
    if mark = 'T' || mark = 't' || mark = ' ' then
      ((scanTime rest).map skipOffset).getD text
    else
      text
  | [] => []

/-- Read a date, a time, or both. -/
def scanDatetime : Scan String := fun text => do
  let rest ←
    match scanDate text with
    | some rest => some (skipTimeOfDate rest)
    | none => scanTime text
  return (String.ofList (text.take (text.length - rest.length)), rest)

end NetworkIsolation.Toml
