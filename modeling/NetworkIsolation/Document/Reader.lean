import NetworkIsolation.Json.Parser
import NetworkIsolation.Json.Printer
import NetworkIsolation.Toml.Parser

/-!
# Typed readers

A reader gets a typed value out of a document in any of three forms: JSON text,
where the first fault in reading order counts and has a place; a JSON value that
has been read already; and a TOML value.  Each combinator says once what a type
looks like in all three.

A record is read from named entries or from its fields in declaration order.
Entries may come in any order; a field that is absent keeps the value that the
record starts with, unless it is required.
-/

namespace NetworkIsolation.Document

open NetworkIsolation.Json

/-- How a value of a type is read. -/
structure Reader (α : Type) where
  /-- Read from text, with room for the given number of open brackets. -/
  ofText : Nat → List Char → Except Fault (α × List Char)
  /-- Read from a JSON value. -/
  ofValue : Json.Value → Except Mismatch α
  /-- Read from a TOML value. -/
  ofToml : Toml.Value → Except Mismatch α

/-- What a JSON value is called in a mismatch. -/
def foundValue : Json.Value → Found
  | .null => .null
  | .bool value => .bool value
  | .number (.integer value) => .integer value
  | .number (.double value) => .float (String.ofList (doubleLayout.write value))
  | .string text => .string text
  | .array _ => .sequence
  | .object _ => .mapping

/-- What a TOML value is called in a mismatch; a date is a mapping of its own kind. -/
def foundToml : Toml.Value → Found
  | .string text => .string text
  | .integer value => .integer value
  | .float value => .float value.shown
  | .bool value => .bool value
  | .datetime _ => .mapping
  | .array _ => .sequence
  | .tables _ => .sequence
  | .table _ _ => .mapping

/--
The fault of a text whose next value has the wrong type.  A scalar is read
first, so that its own faults go before; a bracket is not opened.
-/
def wrongType (expected : String) (text : List Char) : Fault :=
  let faultOf (found : Except Fault (Found × List Char)) : Fault :=
    match found with
    | .ok (found, rest) => .wrongShape (.invalidType found expected) rest
    | .error fault => fault
  match text with
  | [] => .before .endInValue []
  | '[' :: rest => .wrongShape (.invalidType .sequence expected) ('[' :: rest)
  | '{' :: rest => .wrongShape (.invalidType .mapping expected) ('{' :: rest)
  | text =>
    faultOf do
      let (value, rest) ← Json.Value.read 0 text
      return (foundValue value, rest)

namespace Reader

variable {α β : Type}

/-- Apply a function to what is read. -/
def map (transform : α → β) (reader : Reader α) : Reader β where
  ofText room text := do
    let (value, rest) ← reader.ofText room text
    return (transform value, rest)
  ofValue value := (reader.ofValue value).map transform
  ofToml value := (reader.ofToml value).map transform

/-- A string, called by the given words when it is missed. -/
def stringCalled (expected : String) : Reader String where
  ofText _ text :=
    match Json.skipSpace text with
    | '"' :: rest => scanString rest
    | rest => .error (wrongType expected rest)
  ofValue
    | .string text => .ok text
    | value => .error (.invalidType (foundValue value) expected)
  ofToml
    | .string text => .ok text
    | value => .error (.invalidType (foundToml value) expected)

/-- A string. -/
def string : Reader String := stringCalled "a string"

/-- A path. -/
def path : Reader String := stringCalled "path string"

/-- A truth value. -/
def bool : Reader Bool where
  ofText _ text :=
    match Json.skipSpace text with
    | 't' :: rest => do
      let rest ← Json.scanWord ['r', 'u', 'e'] rest
      return (true, rest)
    | 'f' :: rest => do
      let rest ← Json.scanWord ['a', 'l', 's', 'e'] rest
      return (false, rest)
    | rest => .error (wrongType "a boolean" rest)
  ofValue
    | .bool value => .ok value
    | value => .error (.invalidType (foundValue value) "a boolean")
  ofToml
    | .bool value => .ok value
    | value => .error (.invalidType (foundToml value) "a boolean")

/-- Nothing but the value `null`. -/
def nothing : Reader Unit where
  ofText _ text :=
    match Json.skipSpace text with
    | 'n' :: rest => do
      let rest ← Json.scanWord ['u', 'l', 'l'] rest
      return ((), rest)
    | rest => .error (wrongType "unit" rest)
  ofValue
    | .null => .ok ()
    | value => .error (.invalidType (foundValue value) "unit")
  ofToml value := .error (.invalidType (foundToml value) "unit")

/-- The largest number of 32 bits. -/
def maxWord : Nat := UInt32.size - 1

/-- A number of 32 bits, or why it is none. -/
def wordOf : Number → Except Mismatch Nat
  | .integer value =>
    if 0 ≤ value && value ≤ maxWord then .ok value.toNat
    else .error (.invalidValue (.integer value) "u32")
  | .double value =>
    .error (.invalidType (.float (String.ofList (doubleLayout.write value))) "u32")

/-- A number of 32 bits. -/
def word : Reader Nat where
  ofText _ text :=
    let finish (found : Except Fault (Number × List Char)) : Except Fault (Nat × List Char) := do
      let (number, rest) ← found
      match wordOf number with
      | .ok value => return (value, rest)
      | .error mismatch => throw (.wrongShape mismatch rest)
    match Json.skipSpace text with
    | '-' :: rest => finish (scanNumber true rest)
    | character :: rest =>
      if character.isDigit then finish (scanNumber false (character :: rest))
      else .error (wrongType "u32" (character :: rest))
    | [] => .error (wrongType "u32" [])
  ofValue
    | .number number => wordOf number
    | value => .error (.invalidType (foundValue value) "u32")
  ofToml
    | .integer value => wordOf (.integer value)
    | value => .error (.invalidType (foundToml value) "u32")

/-- A value that may be `null`. -/
def nullable (reader : Reader α) : Reader (Option α) where
  ofText room text :=
    match Json.skipSpace text with
    | 'n' :: rest => do
      let rest ← Json.scanWord ['u', 'l', 'l'] rest
      return (none, rest)
    | rest => (reader.map some).ofText room rest
  ofValue
    | .null => .ok none
    | value => (reader.map some).ofValue value
  ofToml value := (reader.map some).ofToml value

/-- A list. -/
def list (reader : Reader α) : Reader (List α) where
  ofText room text :=
    match Json.skipSpace text with
    | '[' :: rest =>
      match room with
      | 0 => .error (.within .nestedTooDeep ('[' :: rest))
      | room + 1 => scanList (fun text => reader.ofText room text) rest
    | rest => .error (wrongType "a sequence" rest)
  ofValue
    | .array items => items.mapM reader.ofValue
    | value => .error (.invalidType (foundValue value) "a sequence")
  ofToml
    | .array items => items.mapM reader.ofToml
    | .tables items => items.mapM reader.ofToml
    | value => .error (.invalidType (foundToml value) "a sequence")

/-- Any JSON object, with its entries as they are. -/
def bucket : Reader Bucket where
  ofText room text :=
    match Json.skipSpace text with
    | '{' :: rest =>
      match Json.Value.read room ('{' :: rest) with
      | .ok (.object entries, rest) => .ok (entries, rest)
      | .ok (value, rest) => .error (.wrongShape (.invalidType (foundValue value) "a map") rest)
      | .error fault => .error fault
    | rest => .error (wrongType "a map" rest)
  ofValue
    | .object entries => .ok entries
    | value => .error (.invalidType (foundValue value) "a map")
  ofToml value := .error (.invalidType (foundToml value) "a map")

/--
The entries of an object in document order, read one by one.  From text every
entry counts, also one whose name was there before.
-/
def mappingCalled (expected : String) (reader : Reader α) : Reader (List (String × α)) where
  ofText room text :=
    match Json.skipSpace text with
    | '{' :: rest =>
      match room with
      | 0 => .error (.within .nestedTooDeep ('{' :: rest))
      | room + 1 => do
        let (reversed, rest) ← scanObject
          (fun (entries : List (String × α)) name text => do
            let text ← scanColon text
            let (value, text) ← reader.ofText room text
            return ((name, value) :: entries, text))
          [] rest
        return (reversed.reverse, rest)
    | rest => .error (wrongType expected rest)
  ofValue
    | .object entries => entries.mapM fun entry => do
      let value ← reader.ofValue entry.2
      return (entry.1, value)
    | value => .error (.invalidType (foundValue value) expected)
  ofToml
    | .table _ entries => entries.mapM fun entry => do
      let value ← reader.ofToml entry.2
      return (entry.1, value)
    | value => .error (.invalidType (foundToml value) expected)

/-! ## Words of a fixed list -/

/-- The meaning of one of the known words. -/
def chooseWord (words : List (String × α)) (name : String) : Except Mismatch α :=
  match words.find? (fun entry => entry.1 = name) with
  | some (_, value) => .ok value
  | none => .error (.unknownVariant name (words.map Prod.fst))

/-- The word in front of the rest of a text. -/
def chooseWordAt (words : List (String × α)) (name : String) (rest : List Char) :
    Except Fault α :=
  (chooseWord words name).mapError fun mismatch => .wrongShape mismatch rest

/-- Read the name of the only entry of an object after the object's opening brace. -/
def scanOnlyName (text : List Char) : Except Fault (String × List Char) :=
  match Json.skipSpace text with
  | [] => .error (.before .endInObject [])
  | '"' :: rest => scanString rest
  | '}' :: rest => .error (.within .expectedValue ('}' :: rest))
  | rest => .error (.within .keyNotString rest)

/-- A TOML value beside a word must be an empty table or array. -/
def requireEmpty : Toml.Value → Except Mismatch Unit
  | .table _ entries => if entries.isEmpty then .ok () else .error .notEmptyTable
  | .array items => if items.isEmpty then .ok () else .error .notEmptyTable
  | .tables items => if items.isEmpty then .ok () else .error .notEmptyArray
  | .string _ => .error (.notTable "string")
  | .integer _ => .error (.notTable "integer")
  | .float _ => .error (.notTable "float")
  | .bool _ => .error (.notTable "boolean")
  | .datetime _ => .error (.notTable "datetime")

/-- One of several words, alone or as the only name of an object whose value is `null`. -/
def oneOf (words : List (String × α)) : Reader α where
  ofText room text :=
    match Json.skipSpace text with
    | [] => .error (.before .endInValue [])
    | '"' :: rest => do
      let (name, rest) ← scanString rest
      let value ← chooseWordAt words name rest
      return (value, rest)
    | '{' :: rest =>
      match room with
      | 0 => .error (.within .nestedTooDeep ('{' :: rest))
      | room + 1 => do
        let (name, rest) ← scanOnlyName rest
        let value ← chooseWordAt words name rest
        let rest ← scanColon rest
        let ((), rest) ← nothing.ofText room rest
        match Json.skipSpace rest with
        | '}' :: rest => return (value, rest)
        | [] => throw (.before .endInObject [])
        | rest => throw (.before .expectedValue rest)
    | rest => .error (.within .expectedValue rest)
  ofValue
    | .string name => chooseWord words name
    | .object [(name, value)] => do
      let word ← chooseWord words name
      nothing.ofValue value
      return word
    | .object _ => .error (.invalidValue .mapping "map with a single key")
    | value => .error (.invalidType (foundValue value) "string or map")
  ofToml
    | .string name => chooseWord words name
    | .table _ [(name, value)] => do
      let word ← chooseWord words name
      requireEmpty value
      return word
    | .table _ entries => .error (.notOneEntry entries.length)
    | _ => .error .notWordOrTable

end Reader

/-! ## Records -/

/-- A named field of a record, which reads a change of the record. -/
structure Field (α : Type) where
  name : String
  required : Bool
  change : Reader (α → α)

namespace Field

variable {α β : Type}

/-- A field that must be there. -/
def need (name : String) (reader : Reader β) (set : β → α → α) : Field α :=
  ⟨name, true, reader.map set⟩

/-- A field that may be absent. -/
def allow (name : String) (reader : Reader β) (set : β → α → α) : Field α :=
  ⟨name, false, reader.map set⟩

end Field

/-- What a record looks like in a document. -/
structure Record (α : Type) where
  /-- The name of the record in messages. -/
  name : String
  fields : List (Field α)
  /-- Whether a name that is no field is refused. -/
  strict : Bool
  /-- The record before any field has been read. -/
  start : α

namespace Record

variable {α : Type}

/-- How the record is called in a mismatch. -/
def described (record : Record α) : String :=
  "struct " ++ record.name

/-- The names of the fields. -/
def fieldNames (record : Record α) : List String :=
  record.fields.map Field.name

/-- The field of a name. -/
def field? (record : Record α) (name : String) : Option (Field α) :=
  record.fields.find? fun field => field.name = name

/-- The mismatch of a list that ends before a required field. -/
def tooShort (record : Record α) (length : Nat) : Mismatch :=
  let count := record.fields.length
  .invalidLength length
    (record.described ++ " with " ++ toString count ++
      (if count = 1 then " element" else " elements"))

/-- The first required field that has not been seen. -/
def missing? (record : Record α) (seen : List String) : Option Mismatch :=
  (record.fields.find? fun field => field.required && !seen.contains field.name).map
    fun field => .missingField field.name

/-! ### From JSON text -/

/-- What is left after trying to close an object that cannot be used. -/
def afterObject (text : List Char) : List Char :=
  match Json.skipSpace text with
  | '}' :: rest => rest
  | rest => rest

/-- What is left after trying to close a list that cannot be used. -/
def afterList (text : List Char) : List Char :=
  match Json.skipSpace text with
  | ']' :: rest => rest
  | ',' :: rest => Json.skipSpace rest
  | rest => rest

/-- Read one entry of an object into a record and the names seen so far. -/
def readEntry (record : Record α) (room : Nat) (state : α × List String) (name : String)
    (text : List Char) : Except Fault ((α × List String) × List Char) :=
  match record.field? name with
  | none =>
    if record.strict then
      .error (.wrongShape (.unknownField name record.fieldNames) (afterObject text))
    else do
      let text ← scanColon text
      let text ← skipValue text
      return (state, text)
  | some field =>
    if state.2.contains name then
      .error (.wrongShape (.duplicateField name) (afterObject text))
    else do
      let text ← scanColon text
      let (change, text) ← field.change.ofText room text
      return ((change state.1, name :: state.2), text)

/-- Read the fields in declaration order from the items of a list. -/
def readItems (record : Record α) (room : Nat) :
    List (Field α) → Nat → α → List Char → Except Fault (α × List Char)
  | [], _, value, text => .ok (value, text)
  | field :: fields, index, value, text => do
    let (more, text) ← moreItems (index = 0) text
    if more then
      let (change, text) ← field.change.ofText room text
      readItems record room fields (index + 1) (change value) text
    else if field.required then
      throw (.wrongShape (record.tooShort index) (afterList text))
    else
      readItems record room fields index value text

/-- Read a record from text. -/
def ofText (record : Record α) (room : Nat) (text : List Char) : Except Fault (α × List Char) :=
  match Json.skipSpace text with
  | '{' :: rest =>
    match room with
    | 0 => .error (.within .nestedTooDeep ('{' :: rest))
    | room + 1 => do
      let ((value, seen), rest) ←
        scanEntries (record.readEntry room) (rest.length + 1) true (record.start, []) rest
      match record.missing? seen with
      | some mismatch => throw (.wrongShape mismatch (afterObject rest))
      | none =>
        let rest ← closeObject rest
        return (value, rest)
  | '[' :: rest =>
    match room with
    | 0 => .error (.within .nestedTooDeep ('[' :: rest))
    | room + 1 => do
      let (value, rest) ← record.readItems room record.fields 0 record.start rest
      let rest ← closeList rest
      return (value, rest)
  | rest => .error (wrongType record.described rest)

/-! ### From values -/

/-- Read the entries of an object, each value by the given form of its field's reader. -/
def readEntries {β : Type} (record : Record α) (form : Field α → β → Except Mismatch (α → α)) :
    List (String × β) → α × List String → Except Mismatch α
  | [], (value, seen) =>
    match record.missing? seen with
    | some mismatch => .error mismatch
    | none => .ok value
  | (name, entry) :: rest, (value, seen) =>
    match record.field? name with
    | none =>
      if record.strict then .error (.unknownField name record.fieldNames)
      else readEntries record form rest (value, seen)
    | some field =>
      if seen.contains name then
        .error (.duplicateField name)
      else do
        let change ← form field entry
        readEntries record form rest (change value, name :: seen)

/-- Read the fields in declaration order, and give back the items that are left. -/
def readPositions {β : Type} (record : Record α)
    (form : Field α → β → Except Mismatch (α → α)) :
    List (Field α) → Nat → List β → α → Except Mismatch (α × List β)
  | [], _, items, value => .ok (value, items)
  | field :: fields, index, item :: items, value => do
    let change ← form field item
    readPositions record form fields (index + 1) items (change value)
  | field :: fields, index, [], value =>
    if field.required then .error (record.tooShort index)
    else readPositions record form fields index [] value

/-- Read a record from a JSON value; a list may not have more items than there are fields. -/
def ofValue (record : Record α) : Json.Value → Except Mismatch α
  | .object entries =>
    record.readEntries (fun field value => field.change.ofValue value) entries (record.start, [])
  | .array items => do
    let (value, left) ← record.readPositions (fun field item => field.change.ofValue item)
      record.fields 0 items record.start
    if left.isEmpty then return value
    else throw (.invalidLength items.length "fewer elements in array")
  | value => .error (.invalidType (foundValue value) record.described)

/-- The name under which a date passes for an entry. -/
def datetimeKey : String := "$__toml_private_datetime"

/-- Read a record from a TOML value; items beyond the last field are passed over. -/
def ofToml (record : Record α) (value : Toml.Value) : Except Mismatch α :=
  let form (field : Field α) (value : Toml.Value) := field.change.ofToml value
  let ofItems (items : List Toml.Value) : Except Mismatch α := do
    let (value, _) ← record.readPositions form record.fields 0 items record.start
    return value
  match value with
  | .table _ entries => record.readEntries form entries (record.start, [])
  | .array items => ofItems items
  | .tables items => ofItems items
  | .datetime written =>
    record.readEntries form [(datetimeKey, .string written)] (record.start, [])
  | value => .error (.invalidType (foundToml value) record.described)

/-- The reader of a record. -/
def reader (record : Record α) : Reader α where
  ofText := record.ofText
  ofValue := record.ofValue
  ofToml := record.ofToml

end Record

namespace Reader

variable {α : Type}

/-- Read a text that holds one value of the type and nothing else. -/
def decode (reader : Reader α) (text : String) : Except DecodeError α :=
  let characters := text.toList
  let document := do
    let (value, rest) ← reader.ofText maxNesting characters
    scanEnd rest
    return value
  document.mapError fun fault => fault.locate characters

end Reader

end NetworkIsolation.Document
