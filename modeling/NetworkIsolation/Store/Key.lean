import NetworkIsolation.Store.Error

/-!
# Keys of answers

A key names a file of the store, so it is short, has only letters, digits and
the characters `_`, `-` and `.`, and does not begin with a dot.
-/

namespace NetworkIsolation.Store

/-- The most bytes a key may have. -/
def maxKeyBytes : Nat := 128

/-- The characters of a key. -/
def isKeyCharacter (character : Char) : Bool :=
  character.isAlphanum || character = '_' || character = '-' || character = '.'

/-- Whether a text may be used as a key. -/
def validateKey (key : String) : Except StoreError Unit :=
  if key.isEmpty || maxKeyBytes < key.utf8ByteSize then
    .error (.invalidKey .length)
  else if key.startsWith "." || !key.toList.all isKeyCharacter then
    .error (.invalidKey (.characters key))
  else
    .ok ()

/-- Whether a text is accepted as a key. -/
def isKey (key : String) : Bool :=
  (validateKey key).toOption.isSome

end NetworkIsolation.Store
