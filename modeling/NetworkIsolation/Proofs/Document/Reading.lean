import NetworkIsolation.Document.Reader
import NetworkIsolation.Proofs.Json.RoundTrip

/-!
# Readers on printed values

What a typed reader gets from the pretty text of a value.  There is one rule for
each way of putting readers together, from the parts to the whole: a list or a
mapping is read back if its items or values are, and a record is read from the
text of an object if each of its entries is.  Every entry changes the record as
its field says, and no field may come twice.
-/

namespace NetworkIsolation.Document

open NetworkIsolation.Json

namespace Reader

variable {α β : Type}

/-- Where the pretty text of a value comes next, the reader gives what is expected. -/
def ReadsBack (reader : Reader α) (room : Nat) (value : Value) (expected : Option α) : Prop :=
  ∀ level text rest, endsNumber rest = true →
    skipSpace text = value.prettyChars level ++ rest →
    (reader.ofText room text).toOption = expected.map fun found => (found, rest)

theorem ReadsBack.map {reader : Reader α} {room : Nat} {value : Value} {expected : Option α}
    (reads : reader.ReadsBack room value expected) (transform : α → β) :
    (reader.map transform).ReadsBack room value (expected.map transform) := by
  intro level text rest ends next
  have read := reads level text rest ends next
  simp only [Reader.map, toOption_bind, read, Option.bind_map, toOption_pure]
  cases expected <;> rfl

theorem string_readsBack (room : Nat) (text : String) :
    Reader.string.ReadsBack room (.string text) (some text) := by
  intro level characters rest ends next
  rw [Value.prettyChars, stringChars_append] at next
  simp only [Reader.string, stringCalled, next]
  rw [scanString_escaped]
  rfl

/-- What does not begin as `null` does is read as without it. -/
theorem nullable_readsBack {reader : Reader α} {room : Nat} {value : Value}
    {expected : Option α} (reads : reader.ReadsBack room value expected)
    (begins : ∀ level, ∃ first others, value.prettyChars level = first :: others ∧ first ≠ 'n') :
    (Reader.nullable reader).ReadsBack room value (expected.map some) := by
  intro level characters rest ends next
  have skipped : skipSpace (skipSpace characters) = value.prettyChars level ++ rest := by
    rw [next, Value.skipSpace_prettyChars]
  have read := reads.map some level _ rest ends skipped
  rcases begins level with ⟨first, others, printed, not_null⟩
  rw [next] at read
  rw [printed, List.cons_append] at next read
  simp only [Reader.nullable, next]
  split
  · rename_i same
    cases same
    exact absurd rfl not_null
  · exact read

/-- A whole number of 32 bits is read back. -/
theorem word_readsBack (room : Nat) {number : Nat} (small : number ≤ maxWord) :
    Reader.word.ReadsBack room (Value.nat number) (some number) := by
  intro level characters rest ends next
  have fits : number ≤ maxInteger := by
    simp only [maxWord, UInt32.size] at small
    simp only [maxInteger, UInt64.size]
    omega
  have scanned : scanNumber false (Nat.toDigits 10 number ++ rest) =
      .ok (.integer number, rest) := by
    rw [← wholeText_chars, scanNumber_append (wholeText_proper number) ends,
      toNumber_wholeText fits]
    rfl
  have printed : (Value.nat number).prettyChars level = Nat.toDigits 10 number := rfl
  rcases head_chars (wholeText_proper number) with ⟨first, others, digits, is_digit⟩
  rw [wholeText_chars] at digits
  rw [printed, digits, List.cons_append] at next
  rw [digits, List.cons_append] at scanned
  have in_range : wordOf (.integer number) = .ok number := by
    simp only [wordOf]
    rw [if_pos (by simp; exact_mod_cast small)]
    rfl
  simp only [Reader.word, next]
  split
  · rename_i minus
    cases minus
    cases is_digit
  · rename_i same
    cases same
    rw [if_pos is_digit, scanned]
    simp only [ok_bind, in_range]
    rfl
  · contradiction

theorem object_printed (level : Nat) (entries : List (String × Value)) :
    ∃ rest, (Value.object entries).prettyChars level = '{' :: rest := by
  cases entries with
  | nil => exact ⟨_, rfl⟩
  | cons entry entries => exact ⟨_, rfl⟩

theorem array_printed (level : Nat) (items : List Value) :
    ∃ rest, (Value.array items).prettyChars level = '[' :: rest := by
  cases items with
  | nil => exact ⟨_, rfl⟩
  | cons item items => exact ⟨_, rfl⟩

/-- A list is read back if each of its items is. -/
theorem list_readsBack {reader : Reader α} {room : Nat} {items : List Value}
    {expected : Value → Option α}
    (reads : ∀ item ∈ items, reader.ReadsBack room item (expected item)) :
    (Reader.list reader).ReadsBack (room + 1) (.array items) (items.mapM expected) := by
  intro level characters rest ends next
  cases items with
  | nil =>
      have printed : (Value.array []).prettyChars level ++ rest = '[' :: ']' :: rest := rfl
      rw [printed] at next
      simp only [Reader.list, next]
      rfl
  | cons item items =>
      have reads_items : Value.ReadsItems (fun text => reader.ofText room text) expected
          (level + 1) (item :: items) :=
        fun value member others ends_value => reads value member (level + 1) _ others ends_value
          (Value.skipSpace_prettyChars (level + 1) value others)
      rw [Value.prettyChars_array_append] at next
      simp only [Reader.list, next]
      exact Value.scanList_prettyItems reads_items (endsNumber_breakLine level (']' :: rest))
        (skipSpace_breakLine level _)

/-- What one entry adds to the entries that were read, which are kept the last one first. -/
def collectEntry (expected : Value → Option α) (kept : List (String × α))
    (entry : String × Value) : Option (List (String × α)) :=
  (expected entry.2).map fun found => (entry.1, found) :: kept

theorem foldlM_collectEntry (expected : Value → Option α) (entries : List (String × Value))
    (kept : List (String × α)) :
    entries.foldlM (collectEntry expected) kept =
      (entries.mapM fun entry => (expected entry.2).map fun found => (entry.1, found)).map
        fun found => found.reverse ++ kept := by
  induction entries generalizing kept with
  | nil => rfl
  | cons entry entries induction_hypothesis =>
      rw [List.foldlM_cons, List.mapM_cons, collectEntry]
      cases expected entry.2 with
      | none => rfl
      | some found =>
          simp only [Option.map_some, Option.bind_eq_bind, Option.bind_some, induction_hypothesis]
          cases entries.mapM fun entry => (expected entry.2).map fun found => (entry.1, found) with
          | none => rfl
          | some others => simp

/-- Read one entry of a mapping in front of those that were read. -/
def mappingEntry (reader : Reader α) (room : Nat) (kept : List (String × α)) (name : String)
    (text : List Char) : Except Fault (List (String × α) × List Char) := do
  let text ← scanColon text
  let found ← reader.ofText room text
  return ((name, found.1) :: kept, found.2)

theorem mappingCalled_ofText (words : String) (reader : Reader α) (room : Nat)
    {text rest : List Char} (opens : skipSpace text = '{' :: rest) :
    (mappingCalled words reader).ofText (room + 1) text =
      (scanObject (mappingEntry reader room) [] rest).map fun found =>
        (found.1.reverse, found.2) := by
  simp only [mappingCalled, opens]
  rfl

/-- A mapping is read back if each of its values is. -/
theorem mapping_readsBack (words : String) {reader : Reader α} {room : Nat}
    {entries : List (String × Value)} {expected : Value → Option α}
    (reads : ∀ entry ∈ entries, reader.ReadsBack room entry.2 (expected entry.2)) :
    (Reader.mappingCalled words reader).ReadsBack (room + 1) (.object entries)
      (entries.mapM fun entry => (expected entry.2).map fun found => (entry.1, found)) := by
  intro level characters rest ends next
  cases entries with
  | nil =>
      have printed : (Value.object []).prettyChars level ++ rest = '{' :: '}' :: rest := rfl
      rw [printed] at next
      simp only [mappingCalled, next]
      rfl
  | cons entry entries =>
      have reads_entries : Value.ReadsEntries (mappingEntry reader room)
          (collectEntry expected) (level + 1) (entry :: entries) := by
        intro name value member kept others ends_value
        have read := reads (name, value) member (level + 1)
          (' ' :: (value.prettyChars (level + 1) ++ others)) others ends_value (by
            rw [skipSpace_space, Value.skipSpace_prettyChars])
        have colon : scanColon (':' :: ' ' :: (value.prettyChars (level + 1) ++ others)) =
            .ok (' ' :: (value.prettyChars (level + 1) ++ others)) := rfl
        rw [mappingEntry, colon, ok_bind, toOption_bind, read, collectEntry]
        cases expected value <;> rfl
      have scanned := Value.scanObject_of_entries (Value.scanEntries_prettyEntries reads_entries
        (endsNumber_breakLine level ('}' :: rest)) (skipSpace_breakLine level _) [])
      rw [Value.prettyChars_object_append] at next
      rw [mappingCalled_ofText words reader room next, toOption_map, scanned, foldlM_collectEntry]
      cases (entry :: entries).mapM fun entry =>
          (expected entry.2).map fun found => (entry.1, found) with
      | none => rfl
      | some found => simp

theorem bucket_readsBack {room : Nat} {entries : Bucket}
    (distinct : (Value.object entries).HasDistinctNames) :
    Reader.bucket.ReadsBack (room + 1) (.object entries) (Value.rereadEntries room entries) := by
  intro level characters rest ends next
  have read := Value.read_prettyChars (.object entries) (room + 1) level distinct ends
  rcases object_printed level entries with ⟨others, printed⟩
  rw [printed, List.cons_append] at read next
  rw [Value.reread] at read
  simp only [Reader.bucket, next]
  cases reread : Value.rereadEntries room entries with
  | none =>
      rw [reread] at read
      cases found : Value.read (room + 1) ('{' :: (others ++ rest)) with
      | error fault => rfl
      | ok value =>
          rw [found] at read
          cases read
  | some again =>
      rw [reread] at read
      rw [toOption_eq_some.mp read]
      rfl

/-- A printed value is decoded to what is read back from it. -/
theorem ReadsBack.decode {reader : Reader α} {value : Value} {expected : Option α}
    (reads : reader.ReadsBack maxNesting value expected) :
    (reader.decode value.pretty).toOption = expected := by
  have begins : skipSpace (value.prettyChars 0) = value.prettyChars 0 ++ [] := by
    simpa using Value.skipSpace_prettyChars 0 value []
  have read := reads 0 (value.prettyChars 0) [] rfl begins
  rw [Reader.decode, toOption_mapError, Value.pretty, String.toList_ofList, toOption_bind, read]
  cases expected <;> rfl

end Reader

/-! ## Records -/

namespace Record

variable {α : Type}

/-- What an entry of an object does to a record and the names seen so far. -/
def expectedEntry (expected : String → Value → Option (α → α)) (state : α × List String)
    (entry : String × Value) : Option (α × List String) :=
  if state.2.contains entry.1 then none
  else (expected entry.1 entry.2).map fun change => (change state.1, entry.1 :: state.2)

/-- The entries of a record are read if each of them is a field whose reader reads it. -/
theorem readsEntries {record : Record α} {room level : Nat} {entries : List (String × Value)}
    {expected : String → Value → Option (α → α)}
    (fields : ∀ name value, (name, value) ∈ entries → ∃ field, record.field? name = some field ∧
      field.change.ReadsBack room value (expected name value)) :
    Value.ReadsEntries (record.readEntry room) (expectedEntry expected) level entries := by
  intro name value member state rest ends
  rcases fields name value member with ⟨field, found, reads⟩
  have read := reads level (' ' :: (value.prettyChars level ++ rest)) rest ends (by
    rw [skipSpace_space, Value.skipSpace_prettyChars])
  rw [readEntry, found, expectedEntry]
  by_cases seen : state.2.contains name = true
  · simp only [if_pos seen]
    rfl
  · simp only [if_neg seen]
    have colon : scanColon (':' :: ' ' :: (value.prettyChars level ++ rest)) =
        .ok (' ' :: (value.prettyChars level ++ rest)) := rfl
    simp only [toOption_bind, colon, toOption_ok, Option.bind_some, read, Option.bind_map,
      toOption_pure]
    cases expected name value <;> rfl

/-- What is made of the entries of an object, and of the text behind them. -/
def closeRecord (record : Record α) (found : (α × List String) × List Char) :
    Except Fault (α × List Char) :=
  match record.missing? found.1.2 with
  | some mismatch => throw (.wrongShape mismatch (afterObject found.2))
  | none => do
    let rest ← closeObject found.2
    return (found.1.1, rest)

theorem ofText_object (record : Record α) (room : Nat) (text : List Char) :
    record.ofText (room + 1) ('{' :: text) =
      scanEntries (record.readEntry room) (text.length + 1) true (record.start, []) text >>=
        record.closeRecord := rfl

/-- A record is read back from an object if its entries are. -/
theorem readsBack {record : Record α} {room : Nat} {first : String × Value}
    {entries : List (String × Value)} {expected : String → Value → Option (α → α)}
    (fields : ∀ name value, (name, value) ∈ first :: entries →
      ∃ field, record.field? name = some field ∧
        field.change.ReadsBack room value (expected name value)) :
    record.reader.ReadsBack (room + 1) (.object (first :: entries))
      (((first :: entries).foldlM (expectedEntry expected) (record.start, [])).bind fun state =>
        if (record.missing? state.2).isSome then none else some state.1) := by
  intro level characters rest ends next
  have opened : record.ofText (room + 1) characters =
      record.ofText (room + 1) ((Value.object (first :: entries)).prettyChars level ++ rest) := by
    simp only [ofText, next, Value.skipSpace_prettyChars]
  have closes : skipSpace (Value.breakLine level ++ '}' :: rest) = '}' :: rest :=
    skipSpace_breakLine level _
  have reads : Value.ReadsEntries (record.readEntry room) (expectedEntry expected) (level + 1)
      (first :: entries) := readsEntries fields
  have scanned := Value.scanEntries_prettyEntries reads
    (endsNumber_breakLine level ('}' :: rest)) closes (record.start, [])
  change (record.ofText (room + 1) characters).toOption = _
  rw [opened, Value.prettyChars_object_append, ofText_object, toOption_bind, scanned]
  cases folded : (first :: entries).foldlM (expectedEntry expected) (record.start, []) with
  | none => rfl
  | some state =>
      rcases state with ⟨value, seen⟩
      simp only [Option.map_some, Option.bind_some, closeRecord]
      cases record.missing? seen <;> rfl

/-- A printed object is decoded as a record if its entries are read back. -/
theorem decode_pretty {record : Record α} {first : String × Value}
    {entries : List (String × Value)} {expected : String → Value → Option (α → α)}
    (fields : ∀ name value, (name, value) ∈ first :: entries →
      ∃ field, record.field? name = some field ∧
        field.change.ReadsBack 126 value (expected name value)) :
    (record.reader.decode (Value.object (first :: entries)).pretty).toOption =
      ((first :: entries).foldlM (expectedEntry expected) (record.start, [])).bind fun state =>
        if (record.missing? state.2).isSome then none else some state.1 :=
  Reader.ReadsBack.decode (readsBack fields)

end Record

end NetworkIsolation.Document
