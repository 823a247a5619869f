/-!
# Decoding UTF-8 with replacement

Programs may print bytes that are no UTF-8.  `decodeLossy` keeps every
well-formed sequence and puts U+FFFD for each longest run of bytes that begins
a well-formed sequence and is then broken off, and for each byte that begins
none.
-/

namespace NetworkIsolation.Text

/-- Whether the byte continues a sequence. -/
def isContinuation (byte : UInt8) : Bool :=
  0x80 ≤ byte && byte ≤ 0xbf

/-- The second bytes that may follow a leading byte, or none if it leads nothing. -/
def secondByteRange (leading : UInt8) : Option (UInt8 × UInt8) :=
  if 0xc2 ≤ leading && leading ≤ 0xdf then some (0x80, 0xbf)
  else if leading == 0xe0 then some (0xa0, 0xbf)
  else if leading == 0xed then some (0x80, 0x9f)
  else if 0xe1 ≤ leading && leading ≤ 0xef then some (0x80, 0xbf)
  else if leading == 0xf0 then some (0x90, 0xbf)
  else if 0xf1 ≤ leading && leading ≤ 0xf3 then some (0x80, 0xbf)
  else if leading == 0xf4 then some (0x80, 0x8f)
  else none

/-- How many bytes follow a leading byte. -/
def continuationCount (leading : UInt8) : Nat :=
  if leading < 0xe0 then 1 else if leading < 0xf0 then 2 else 3

/-- The longest run of at most `count` continuation bytes. -/
def takeContinuations : Nat → List UInt8 → List UInt8
  | 0, _ => []
  | _, [] => []
  | count + 1, byte :: rest =>
    if isContinuation byte then byte :: takeContinuations count rest else []

/-- The bytes after a leading byte that belong to its sequence, complete or broken off. -/
def continuations (leading : UInt8) : List UInt8 → List UInt8
  | [] => []
  | second :: rest =>
    match secondByteRange leading with
    | none => []
    | some (low, high) =>
      if low ≤ second && second ≤ high then
        second :: takeContinuations (continuationCount leading - 1) rest
      else
        []

/-- The character that a complete sequence stands for. -/
def decodeSequence (leading : UInt8) (following : List UInt8) : Char :=
  let head :=
    match following.length with
    | 1 => leading.toNat % 0x20
    | 2 => leading.toNat % 0x10
    | _ => leading.toNat % 0x08
  Char.ofNat (following.foldl (fun code byte => code * 0x40 + byte.toNat % 0x40) head)

/-- Decode with at most `fuel` characters. -/
def decodeLossyChars : Nat → List UInt8 → List Char
  | 0, _ => []
  | _, [] => []
  | fuel + 1, byte :: rest =>
    if byte < 0x80 then
      Char.ofNat byte.toNat :: decodeLossyChars fuel rest
    else
      let following := continuations byte rest
      let remaining := rest.drop following.length
      if (secondByteRange byte).isSome && following.length == continuationCount byte then
        decodeSequence byte following :: decodeLossyChars fuel remaining
      else
        '\ufffd' :: decodeLossyChars fuel remaining

/-- The text that the bytes stand for, with U+FFFD where they stand for none. -/
def decodeLossy (bytes : List UInt8) : String :=
  String.ofList (decodeLossyChars bytes.length bytes)

end NetworkIsolation.Text
