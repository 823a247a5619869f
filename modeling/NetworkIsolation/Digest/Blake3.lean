/-!
# The BLAKE3 digest

The digest of 32 bytes in its plain hashing mode.  The input is cut into chunks
of 1024 bytes and these into blocks of 64; compressing a chunk's blocks one
after the other gives its chaining value, and the chaining values are joined in
pairs, level by level, until one is left.  The last compression of all is
marked as the root and gives the digest.
-/

namespace NetworkIsolation.Digest.Blake3

/-- The eight words that every chunk starts from. -/
def initialWords : Array UInt32 :=
  #[0x6a09e667, 0xbb67ae85, 0x3c6ef372, 0xa54ff53a, 0x510e527f, 0x9b05688c, 0x1f83d9ab, 0x5be0cd19]

/-- The block is the first one of its chunk. -/
def chunkStart : UInt32 := 1

/-- The block is the last one of its chunk. -/
def chunkEnd : UInt32 := 2

/-- The block holds two chaining values. -/
def parentNode : UInt32 := 4

/-- The block gives the digest. -/
def rootNode : UInt32 := 8

/-- Where each message word goes between two rounds. -/
def permutation : List Nat :=
  [2, 6, 3, 10, 7, 0, 4, 13, 1, 11, 12, 5, 9, 14, 15, 8]

/-- Rotate a word to the right. -/
def rotateRight (word amount : UInt32) : UInt32 :=
  (word >>> amount) ||| (word <<< (32 - amount))

/-- Mix two message words into four words of the state. -/
def mix (state : Array UInt32) (a b c d : Nat) (first second : UInt32) : Array UInt32 :=
  let wordA := state.getD a 0 + state.getD b 0 + first
  let wordD := rotateRight (state.getD d 0 ^^^ wordA) 16
  let wordC := state.getD c 0 + wordD
  let wordB := rotateRight (state.getD b 0 ^^^ wordC) 12
  let wordA := wordA + wordB + second
  let wordD := rotateRight (wordD ^^^ wordA) 8
  let wordC := wordC + wordD
  let wordB := rotateRight (wordB ^^^ wordC) 7
  (((state.setIfInBounds a wordA).setIfInBounds b wordB).setIfInBounds c wordC).setIfInBounds d
    wordD

/-- Mix the whole message into the state: its columns, then its diagonals. -/
def mixRound (message state : Array UInt32) : Array UInt32 :=
  let word (index : Nat) : UInt32 := message.getD index 0
  let state := mix state 0 4 8 12 (word 0) (word 1)
  let state := mix state 1 5 9 13 (word 2) (word 3)
  let state := mix state 2 6 10 14 (word 4) (word 5)
  let state := mix state 3 7 11 15 (word 6) (word 7)
  let state := mix state 0 5 10 15 (word 8) (word 9)
  let state := mix state 1 6 11 12 (word 10) (word 11)
  let state := mix state 2 7 8 13 (word 12) (word 13)
  mix state 3 4 9 14 (word 14) (word 15)

/-- Reorder the message words. -/
def permute (message : Array UInt32) : Array UInt32 :=
  (permutation.map fun index => message.getD index 0).toArray

/-- Mix a number of rounds, reordering the message in between. -/
def mixRounds : Nat → Array UInt32 → Array UInt32 → Array UInt32
  | 0, _, state => state
  | rounds + 1, message, state => mixRounds rounds (permute message) (mixRound message state)

/-- Compress a block into eight words. -/
def compress (chaining block : Array UInt32) (counter : Nat) (length flags : UInt32) :
    Array UInt32 :=
  let low := UInt32.ofNat (counter % UInt32.size)
  let high := UInt32.ofNat (counter / UInt32.size)
  let start := chaining ++ initialWords.take 4 ++ #[low, high, length, flags]
  let state := mixRounds 7 block start
  ((List.range 8).map fun index => state.getD index 0 ^^^ state.getD (index + 8) 0).toArray

/-- Four bytes as a word, the lowest byte first; missing bytes are zero. -/
def wordOfBytes (bytes : List UInt8) : UInt32 :=
  bytes.foldr (fun byte word => word * 256 + byte.toUInt32) 0

/-- Cut a list into pieces of a length. -/
def pieces {α : Type} (length : Nat) : Nat → List α → List (List α)
  | 0, _ => []
  | _, [] => []
  | fuel + 1, items => items.take length :: pieces length fuel (items.drop length)

/-- The sixteen words of a block of at most 64 bytes. -/
def blockWords (bytes : List UInt8) : Array UInt32 :=
  let words := (pieces 4 16 bytes).map wordOfBytes
  (words ++ List.replicate (16 - words.length) 0).toArray

/-- A compression that is still to be done, so that the last one can be marked. -/
structure Pending where
  chaining : Array UInt32
  block : Array UInt32
  counter : Nat
  length : UInt32
  flags : UInt32

/-- Do a pending compression with further flags. -/
def Pending.finish (pending : Pending) (further : UInt32) : Array UInt32 :=
  compress pending.chaining pending.block pending.counter pending.length
    (pending.flags ||| further)

/-- Compress the blocks of a chunk up to the last one. -/
def chunkPending (counter : Nat) :
    Array UInt32 → UInt32 → List (List UInt8) → Pending
  | chaining, flags, [] =>
    ⟨chaining, blockWords [], counter, 0, flags ||| chunkEnd⟩
  | chaining, flags, [block] =>
    ⟨chaining, blockWords block, counter, UInt32.ofNat block.length, flags ||| chunkEnd⟩
  | chaining, flags, block :: blocks =>
    chunkPending counter
      (compress chaining (blockWords block) counter (UInt32.ofNat block.length) flags) 0 blocks

/-- The last compression of a chunk. -/
def chunk (counter : Nat) (bytes : List UInt8) : Pending :=
  chunkPending counter initialWords chunkStart (pieces 64 bytes.length bytes)

/-- The compression that joins two chaining values. -/
def join (left right : Pending) : Pending :=
  ⟨initialWords, left.finish 0 ++ right.finish 0, 0, 64, parentNode⟩

/-- Join neighbours, and keep the last one if it has none. -/
def joinLevel : List Pending → List Pending
  | left :: right :: rest => join left right :: joinLevel rest
  | rest => rest

/-- Join level by level until one is left. -/
def joinAll : Nat → List Pending → Option Pending
  | _, [] => none
  | _, [only] => some only
  | 0, _ => none
  | fuel + 1, level => joinAll fuel (joinLevel level)

/-- Number a list of chunks from a counter on. -/
def chunksFrom (counter : Nat) : List (List UInt8) → List Pending
  | [] => []
  | bytes :: rest => chunk counter bytes :: chunksFrom (counter + 1) rest

/-- The eight words of the digest. -/
def digestWords (bytes : List UInt8) : Array UInt32 :=
  let chunks :=
    match pieces 1024 bytes.length bytes with
    | [] => [chunk 0 []]
    | cut => chunksFrom 0 cut
  match joinAll chunks.length chunks with
  | some root => root.finish rootNode
  | none => #[]

/-- A byte as two hexadecimal digits in lower case. -/
def byteHex (byte : Nat) : List Char :=
  [Nat.digitChar (byte / 16 % 16), Nat.digitChar (byte % 16)]

/-- A word as eight hexadecimal digits, the lowest byte first. -/
def wordHex (word : UInt32) : List Char :=
  let number := word.toNat
  byteHex number ++ byteHex (number >>> 8) ++ byteHex (number >>> 16) ++
    byteHex (number >>> 24)

/-- The digest of bytes in hexadecimal. -/
def hexDigest (bytes : List UInt8) : String :=
  String.ofList ((digestWords bytes).toList.flatMap wordHex)

end NetworkIsolation.Digest.Blake3
