/-!
# Blank characters

The characters with the Unicode property `White_Space`, and the operations on
text that treat them alike: trimming both ends, telling whether anything else
is there, and splitting at a separator.

The operations are stated on lists of characters, where they are one or two
list operators each, and lifted to strings.
-/

namespace NetworkIsolation.Text

/-- The characters with the Unicode property `White_Space`. -/
def isBlank (character : Char) : Bool :=
  let code := character.toNat
  (0x09 ≤ code && code ≤ 0x0d) || code == 0x20 || code == 0x85 || code == 0xa0 ||
    code == 0x1680 || (0x2000 ≤ code && code ≤ 0x200a) || code == 0x2028 ||
    code == 0x2029 || code == 0x202f || code == 0x205f || code == 0x3000

/-- Drop the blank characters at the end. -/
def trimRight (characters : List Char) : List Char :=
  (characters.reverse.dropWhile isBlank).reverse

/-- Drop the blank characters at both ends. -/
def trimChars (characters : List Char) : List Char :=
  trimRight (characters.dropWhile isBlank)

/-- The text without the blank characters at its ends. -/
def trim (text : String) : String :=
  String.ofList (trimChars text.toList)

/-- Whether nothing but blank characters is there. -/
def isAllBlank (text : String) : Bool :=
  (trim text).isEmpty

/-- The trimmed text, unless it is empty. -/
def nonBlank (text : String) : Option String :=
  let trimmed := trim text
  if trimmed.isEmpty then none else some trimmed

/-- The pieces between the occurrences of a separator, at least one. -/
def splitAt (separator : Char) : List Char → List (List Char)
  | [] => [[]]
  | character :: rest =>
    if character = separator then
      [] :: splitAt separator rest
    else
      match splitAt separator rest with
      | [] => [[character]]
      | piece :: pieces => (character :: piece) :: pieces

@[simp]
theorem splitAt_nil (separator : Char) : splitAt separator [] = [[]] := rfl

theorem splitAt_ne_nil (separator : Char) (characters : List Char) :
    splitAt separator characters ≠ [] := by
  cases characters with
  | nil => simp
  | cons character rest =>
    simp only [splitAt]
    split
    · simp
    · split <;> simp

/-- The trimmed pieces between the separators, without the empty ones. -/
def trimmedPieces (separator : Char) (characters : List Char) : List (List Char) :=
  ((splitAt separator characters).map trimChars).filter (fun piece => !piece.isEmpty)

end NetworkIsolation.Text
