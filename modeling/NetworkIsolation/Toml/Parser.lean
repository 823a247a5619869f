import NetworkIsolation.Toml.Scanner

/-!
# Parsing TOML documents

A document is a list of sections: the entries in front of the first header, and
then one section for each header.  Parsing reads the sections and then puts
them together, which is where a key or a table that is defined twice shows.
-/

namespace NetworkIsolation.Toml


/--
Go down a path of tables from a table of the given origin, and take something
from the table at its end or change it.  Tables that are not there are made.
`dotted` tells the path of a dotted key from that of a header: it makes other
tables and may not go through one that has a header.
-/
def descend {α : Type} (dotted : Bool) (visit : TableOrigin → Table → Option (α × Table)) :
    List String → TableOrigin → Table → Option (α × Table)
  | [], origin, entries => visit origin entries
  | key :: path, _, entries =>
    match entries.get? key with
    | none => do
      let origin := if dotted then .dotted else .implied
      let (result, inner) ← descend dotted visit path origin []
      return (result, entries.insert key (.table origin inner))
    | some (.table .inlined _) => none
    | some (.table origin inner) =>
      if dotted && origin = .header then
        none
      else do
        let (result, inner) ← descend dotted visit path origin inner
        return (result, entries.insert key (.table origin inner))
    | some (.tables items) =>
      match items.getLast? with
      | some (.table origin inner) => do
        let (result, inner) ← descend dotted visit path origin inner
        return (result, entries.insert key (.tables (items.dropLast ++ [.table origin inner])))
      | _ => none
    | some _ => none

/-- Go down a dotted key inside an inline table, where only dotted keys make tables. -/
def descendInline (visit : TableOrigin → Table → Option Table) :
    List String → TableOrigin → Table → Option Table
  | [], origin, entries => visit origin entries
  | key :: path, _, entries =>
    match entries.get? key with
    | none => do
      let inner ← descendInline visit path .dotted []
      return entries.insert key (.table .dotted inner)
    | some (.table .dotted inner) => do
      let inner ← descendInline visit path .dotted inner
      return entries.insert key (.table .dotted inner)
    | some _ => none

/--
Write the last part of a key into the table that the rest of the key leads to.
A key of one part may not extend a table that dotted keys made, a longer one
may extend no other, and nothing is written twice.
-/
def insertLast (key : List String) (value : Value) (origin : TableOrigin) (table : Table) :
    Option Table :=
  match key with
  | [] => none
  | [last] =>
    if origin = .dotted || table.has last then none else some (table.insert last value)
  | _ :: _ :: _ =>
    let last := key.getLastD ""
    if origin ≠ .dotted || table.has last then none else some (table.insert last value)

/-- Add an entry to the table of a section. -/
def addEntry (entries : Table) (key : List String) (value : Value) : Option Table := do
  let visit (origin : TableOrigin) (table : Table) : Option (Unit × Table) :=
    (insertLast key value origin table).map fun table => ((), table)
  let ((), entries) ← descend true visit key.dropLast .header entries
  return entries

/-- Add an entry to an inline table. -/
def addInlineEntry (entries : Table) (key : List String) (value : Value) : Option Table :=
  descendInline (insertLast key value) key.dropLast .inlined entries

/-! ## Values -/

/-- Read the items of an array after its opening bracket. -/
def scanItems (item : Scan Value) : Nat → Scan (List Value)
  | 0, _ => none
  | fuel + 1, text =>
    match skipLines (text.length + 1) text with
    | ']' :: rest => some ([], rest)
    | text => do
      let (value, rest) ← item text
      match skipLines (rest.length + 1) rest with
      | ',' :: rest => do
        let (values, rest) ← scanItems item fuel rest
        return (value :: values, rest)
      | ']' :: rest => return ([value], rest)
      | _ => none

/-- Read the entries of an inline table, the first of which must be there. -/
def scanInlineEntries (item : Scan Value) : Nat → Table → Scan Table
  | 0, _, _ => none
  | fuel + 1, entries, text => do
    let (key, rest) ← scanKey text
    let rest ← scanWord ['='] rest
    let (value, rest) ← item (skipSpace rest)
    let entries ← addInlineEntry entries key value
    match skipSpace rest with
    | ',' :: rest => scanInlineEntries item fuel entries rest
    | '}' :: rest => return (entries, rest)
    | _ => none

/-- Read a value, with room for the given number of open brackets. -/
def scanValue : Nat → Scan Value
  | room, text =>
    match text with
    | [] => none
    | character :: rest =>
      if character = '"' || character = '\'' then do
        let (characters, rest) ← scanString text
        return (.string characters, rest)
      else if character = '[' then
        match room with
        | 0 => none
        | room + 1 => do
          let (items, rest) ← scanItems (fun text => scanValue room text) (rest.length + 1) rest
          return (.array items, rest)
      else if character = '{' then
        match room with
        | 0 => none
        | room + 1 =>
          match skipSpace rest with
          | '}' :: rest => some (.table .inlined [], rest)
          | rest => do
            let (entries, rest) ←
              scanInlineEntries (fun text => scanValue room text) (rest.length + 1) [] rest
            return (.table .inlined entries, rest)
      else if character = 't' then do
        let rest ← scanWord ['r', 'u', 'e'] rest
        return (.bool true, rest)
      else if character = 'f' then do
        let rest ← scanWord ['a', 'l', 's', 'e'] rest
        return (.bool false, rest)
      else
        match scanDatetime text with
        | some (written, rest) => some (.datetime written, rest)
        | none =>
          match scanFloat text with
          | some (value, rest) => some (.float value, rest)
          | none => do
            let (value, rest) ← scanInteger text
            return (.integer value, rest)

/-! ## Sections -/

/-- What a section fills: the document itself, a table, or a new element of an array of tables. -/
inductive Header where
  | root
  | table (path : List String)
  | element (path : List String)

/-- A header and the entries below it. -/
structure Section where
  header : Header
  entries : List (List String × Value)

/-- Read a header after its first bracket, with the rest of its line. -/
def scanHeader : Scan Header
  | '[' :: text => do
    let (path, rest) ← scanKey text
    let rest ← scanWord [']', ']'] rest
    let rest ← scanLineEnd rest
    return (.element path, rest)
  | text => do
    let (path, rest) ← scanKey text
    let rest ← scanWord [']'] rest
    let rest ← scanLineEnd rest
    return (.table path, rest)

/-- Read an entry with the rest of its line. -/
def scanEntry : Scan (List String × Value) := fun text => do
  let (key, rest) ← scanKey text
  let rest ← scanWord ['='] rest
  let (value, rest) ← scanValue (nestingLimit - 1) (skipSpace rest)
  let rest ← scanLineEnd rest
  return ((key, value), rest)

/-- Read the entries up to the next header. -/
def scanEntries : Nat → Scan (List (List String × Value))
  | 0, _ => none
  | fuel + 1, text =>
    match skipLines (text.length + 1) text with
    | [] => some ([], [])
    | '#' :: rest => if (skipComment ('#' :: rest)).isEmpty then some ([], []) else none
    | '[' :: rest => some ([], '[' :: rest)
    | text => do
      let (entry, rest) ← scanEntry text
      let (entries, rest) ← scanEntries fuel rest
      return (entry :: entries, rest)

/-- Read the sections that have a header. -/
def scanSections : Nat → List Char → Option (List Section)
  | 0, _ => none
  | fuel + 1, text =>
    match text with
    | [] => some []
    | '[' :: rest => do
      let (header, rest) ← scanHeader rest
      let (entries, rest) ← scanEntries (rest.length + 1) rest
      let sections ← scanSections fuel rest
      return ⟨header, entries⟩ :: sections
    | _ => none

/-- The text without a byte order mark in front. -/
def dropByteOrderMark : List Char → List Char
  | '\ufeff' :: rest => rest
  | text => text

/-- Read the sections of a document. -/
def scanDocument (text : List Char) : Option (List Section) := do
  let (entries, rest) ← scanEntries (text.length + 1) (dropByteOrderMark text)
  let sections ← scanSections (rest.length + 1) rest
  return ⟨.root, entries⟩ :: sections

/-! ## Putting the sections together -/

/--
The entries that a section starts with, and the document with room for it.
Only a table that the header of a table inside it implied has entries already.
-/
def openSection (document : Table) : Header → Option (Table × Table)
  | .root => some ([], document)
  | .table path =>
    let last := path.getLastD ""
    let take (_ : TableOrigin) (table : Table) : Option (Table × Table) :=
      match table.get? last with
      | none => some ([], table)
      | some (.table .implied inner) => some (inner, table.filter fun entry => entry.1 ≠ last)
      | some _ => none
    descend false take path.dropLast .header document
  | .element path =>
    let last := path.getLastD ""
    let ensure (_ : TableOrigin) (table : Table) : Option (Table × Table) :=
      match table.get? last with
      | none => some ([], table.insert last (.tables []))
      | some (.tables _) => some ([], table)
      | some _ => none
    descend false ensure path.dropLast .header document

/-- The document with a finished section put in its place. -/
def closeSection (document : Table) (header : Header) (entries : Table) : Option Table :=
  match header with
  | .root => some entries
  | .table path => do
    let last := path.getLastD ""
    let put (_ : TableOrigin) (table : Table) : Option (Unit × Table) :=
      some ((), table.insert last (.table .header entries))
    let ((), document) ← descend false put path.dropLast .header document
    return document
  | .element path => do
    let last := path.getLastD ""
    let put (_ : TableOrigin) (table : Table) : Option (Unit × Table) :=
      match table.get? last with
      | some (.tables items) =>
        some ((), table.insert last (.tables (items ++ [.table .header entries])))
      | _ => none
    let ((), document) ← descend false put path.dropLast .header document
    return document

/-- Add a section to a document. -/
def addSection (document : Table) (part : Section) : Option Table := do
  let (start, document) ← openSection document part.header
  let entries ← part.entries.foldlM (fun table entry => addEntry table entry.1 entry.2) start
  closeSection document part.header entries

/-- The table that a well-formed document stands for. -/
def parse? (text : String) : Option Table := do
  let sections ← scanDocument text.toList
  sections.foldlM addSection []

end NetworkIsolation.Toml
