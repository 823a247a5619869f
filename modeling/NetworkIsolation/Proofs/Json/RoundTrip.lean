import Mathlib.Data.List.Nodup
import NetworkIsolation.Proofs.Json.PrettyLists
import NetworkIsolation.Proofs.Json.Shape

/-!
# Printed values that are read back

From the pretty text of a value, with anything behind it that does not go on with
a number, `Value.read` reads what `Value.reread` says and leaves what stands
behind.  The induction is over the value, its items and its entries.
-/

namespace NetworkIsolation.Json

namespace Value

/-- Blanks in front of a value are passed over. -/
theorem read_skipSpace (room : Nat) {first second : List Char}
    (same : skipSpace first = skipSpace second) : read room first = read room second := by
  unfold read
  rw [same]

/-! ## Entries -/

/-- How an entry of an object is read behind its name. -/
def readEntry (room : Nat) (entries : Bucket) (name : String) (text : List Char) :
    Except Fault (Bucket × List Char) := do
  let text ← scanColon text
  let (value, text) ← read room text
  return (entries.insert name value, text)

/-- The colon and the blank in front of a value are passed over. -/
theorem readEntry_prettyChars (room level : Nat) (entries : Bucket) (name : String)
    (value : Value) (rest : List Char) :
    (readEntry room entries name (':' :: ' ' :: (prettyChars level value ++ rest))).toOption =
      (read room (prettyChars level value ++ rest)).toOption.map fun found =>
        (entries.insert name found.1, found.2) := by
  have colon : scanColon (':' :: ' ' :: (prettyChars level value ++ rest)) =
      .ok (' ' :: (prettyChars level value ++ rest)) := rfl
  have blank : read room (' ' :: (prettyChars level value ++ rest)) =
      read room (prettyChars level value ++ rest) := read_skipSpace room (skipSpace_space _)
  rw [readEntry, colon]
  simp only [toOption_bind, toOption_ok, Option.bind_some, blank, toOption_pure,
    Option.map_eq_bind]
  rfl

/-- An entry of a new name goes to the end. -/
theorem insert_of_new {entries : Bucket} {name : String} (new : name ∉ entries.map Prod.fst)
    (value : Value) : entries.insert name value = entries ++ [(name, value)] := by
  induction entries with
  | nil => rfl
  | cons entry entries induction_hypothesis =>
      rcases entry with ⟨other, old⟩
      rw [List.map_cons, List.mem_cons, not_or] at new
      have different : other ≠ name := Ne.symm new.1
      rw [Entries.insert, if_neg different, induction_hypothesis new.2, List.cons_append]

/-! ## Single values -/

theorem read_minus (room : Nat) (text : List Char) :
    (read room ('-' :: text)).toOption =
      (scanNumber true text).toOption.map fun found => (.number found.1, found.2) := by
  have scanned : read room ('-' :: text) =
      scanNumber true text >>= fun found => pure (.number found.1, found.2) := by
    cases room <;> rfl
  rw [scanned, toOption_bind, Option.map_eq_bind]
  rfl

theorem read_digit (room : Nat) {digit : Char} (is_digit : digit.isDigit = true)
    (text : List Char) :
    (read room (digit :: text)).toOption =
      (scanNumber false (digit :: text)).toOption.map fun found => (.number found.1, found.2) := by
  have not_space : skipSpace (digit :: text) = digit :: text := by
    apply skipSpace_of_no_space
    have begins : beginsValue digit = true := by simp [beginsValue, is_digit]
    simpa using (beginsValue_no_space begins).1
  have no_letter : digit ≠ 'n' ∧ digit ≠ 't' ∧ digit ≠ 'f' ∧ digit ≠ '-' := by
    refine ⟨?_, ?_, ?_, ?_⟩ <;> (rintro rfl; cases is_digit)
  rcases no_letter with ⟨not_null, not_true, not_false, not_minus⟩
  have scanned : read room (digit :: text) =
      scanNumber false (digit :: text) >>= fun found => pure (.number found.1, found.2) := by
    unfold read
    rw [not_space]
    simp only [if_neg not_null, if_neg not_true, if_neg not_false, if_neg not_minus,
      if_pos is_digit]
  rw [scanned, toOption_bind, Option.map_eq_bind]
  rfl

/-- From the text of a number its rereading is read. -/
theorem read_number (room : Nat) (number : Number) {rest : List Char}
    (ends : endsNumber rest = true) :
    (read room (number.chars ++ rest)).toOption =
      number.reread.map fun found => (.number found, rest) := by
  rcases exists_text number with ⟨negative, text, proper, written⟩
  have scanned : (scanNumber negative (text.chars ++ rest)).toOption =
      number.reread.map fun found => (found, rest) := by
    rw [scanNumber_append proper ends, toOption_map, toOption_toNumber,
      reread_eq proper written]
  rw [written]
  cases negative with
  | true =>
      rw [if_pos rfl, List.append_assoc, List.singleton_append, read_minus, scanned,
        Option.map_map]
      rfl
  | false =>
      rcases head_chars proper with ⟨digit, others, chars, is_digit⟩
      rw [chars, List.cons_append] at scanned
      rw [if_neg Bool.false_ne_true, List.nil_append, chars, List.cons_append,
        read_digit room is_digit, scanned, Option.map_map]
      rfl

theorem read_string (room : Nat) (text : String) (rest : List Char) :
    read room (stringChars text ++ rest) = .ok (.string text, rest) := by
  have scanned : read room ('"' :: (text.toList.flatMap escapeChar ++ '"' :: rest)) =
      scanString (text.toList.flatMap escapeChar ++ '"' :: rest) >>= fun found =>
        pure (.string found.1, found.2) := by
    cases room <;> rfl
  rw [stringChars_append, scanned, scanString_escaped]
  rfl

theorem read_array (room : Nat) (text : List Char) :
    (read (room + 1) ('[' :: text)).toOption =
      (scanList (fun text => read room text) text).toOption.map fun found =>
        (.array found.1, found.2) := by
  have scanned : read (room + 1) ('[' :: text) =
      scanList (fun text => read room text) text >>= fun found =>
        pure (.array found.1, found.2) := rfl
  rw [scanned, toOption_bind, Option.map_eq_bind]
  rfl

theorem read_object (room : Nat) (text : List Char) :
    (read (room + 1) ('{' :: text)).toOption =
      (scanObject (readEntry room) [] text).toOption.map fun found =>
        (.object found.1, found.2) := by
  have scanned : read (room + 1) ('{' :: text) =
      scanObject (readEntry room) [] text >>= fun found =>
        pure (.object found.1, found.2) := rfl
  rw [scanned, toOption_bind, Option.map_eq_bind]
  rfl

/-! ## Arrays and objects -/

theorem rereadItems_eq_mapM (room : Nat) (items : List Value) :
    rereadItems room items = items.mapM (reread room) := by
  induction items with
  | nil => cases room <;> rfl
  | cons item items induction_hypothesis =>
      rw [rereadItems, List.mapM_cons, induction_hypothesis]
      cases reread room item <;> cases items.mapM (reread room) <;> rfl

/-- What one entry does to the entries that have been read. -/
def rereadEntry (room : Nat) (kept : Bucket) (entry : String × Value) : Option Bucket :=
  (reread room entry.2).map fun found => kept.insert entry.1 found

/-- Entries of distinct names are collected in order. -/
theorem foldlM_rereadEntry {kept : Bucket} {entries : List (String × Value)} (room : Nat)
    (distinct : (kept.map Prod.fst ++ entries.map Prod.fst).Nodup) :
    entries.foldlM (rereadEntry room) kept =
      (rereadEntries room entries).map fun found => kept ++ found := by
  induction entries generalizing kept with
  | nil => simp [rereadEntries]
  | cons entry entries induction_hypothesis =>
      rcases entry with ⟨name, value⟩
      have new : name ∉ kept.map Prod.fst := by
        intro member
        exact List.disjoint_of_nodup_append distinct member List.mem_cons_self
      rw [List.foldlM_cons, rereadEntries]
      cases read_back : reread room value with
      | none => simp [rereadEntry, read_back]
      | some found =>
          have still_distinct :
              ((kept ++ [(name, found)]).map Prod.fst ++ entries.map Prod.fst).Nodup := by
            simpa using distinct
          have first : rereadEntry room kept (name, value) = some (kept ++ [(name, found)]) := by
            rw [rereadEntry, read_back, Option.map_some, insert_of_new new]
          rw [first]
          change entries.foldlM (rereadEntry room) (kept ++ [(name, found)]) = _
          rw [induction_hypothesis still_distinct, Option.bind_some, Option.map_map]
          simp only [Function.comp_def, List.append_assoc, List.singleton_append]

mutual

/-- From the pretty text of a value its rereading is read. -/
theorem read_prettyChars (value : Value) (room level : Nat) {rest : List Char}
    (distinct : value.HasDistinctNames) (ends : endsNumber rest = true) :
    (read room (prettyChars level value ++ rest)).toOption =
      (value.reread room).map fun found => (found, rest) := by
  match value, room with
  | .null, room => cases room <;> rfl
  | .bool true, room => cases room <;> rfl
  | .bool false, room => cases room <;> rfl
  | .number kept, room =>
      rw [prettyChars, read_number room kept ends, reread, Option.map_map]
      rfl
  | .string kept, room =>
      rw [prettyChars, read_string, reread]
      rfl
  | .array [], 0 => rfl
  | .array [], room + 1 => rfl
  | .array (_ :: _), 0 => rfl
  | .array (item :: items), room + 1 =>
      have reads := readsItems (item :: items) room (level + 1) distinct
      have closes : skipSpace (breakLine level ++ ']' :: rest) = ']' :: rest :=
        skipSpace_breakLine level _
      rw [prettyChars_array_append, read_array,
        scanList_prettyItems reads (endsNumber_breakLine level _) closes, reread,
        rereadItems_eq_mapM, Option.map_map, Option.map_map]
      rfl
  | .object [], 0 => rfl
  | .object [], room + 1 => rfl
  | .object (_ :: _), 0 => rfl
  | .object (entry :: entries), room + 1 =>
      have reads := readsEntries (entry :: entries) room (level + 1) distinct.2
      have closes : skipSpace (breakLine level ++ '}' :: rest) = '}' :: rest :=
        skipSpace_breakLine level _
      have scanned := scanObject_of_entries
        (scanEntries_prettyEntries reads (endsNumber_breakLine level _) closes [])
      have names : ([] ++ (entry :: entries).map Prod.fst : List String).Nodup := distinct.1
      have collected : (entry :: entries).foldlM (rereadEntry room) [] = _ :=
        foldlM_rereadEntry room names
      rw [prettyChars_object_append, read_object, scanned, collected, reread, Option.map_map,
        Option.map_map, Option.map_map]
      rfl

theorem readsItems (items : List Value) (room level : Nat)
    (distinct : ItemsHaveDistinctNames items) :
    ReadsItems (fun text => read room text) (reread room) level items := by
  match items with
  | [] =>
      intro value member
      cases member
  | item :: items =>
      intro value member rest ends
      rcases List.mem_cons.mp member with same | later
      · rw [same]
        exact read_prettyChars item room level distinct.1 ends
      · exact readsItems items room level distinct.2 value later rest ends

theorem readsEntries (entries : List (String × Value)) (room level : Nat)
    (distinct : EntriesHaveDistinctNames entries) :
    ReadsEntries (readEntry room) (rereadEntry room) level entries := by
  match entries with
  | [] =>
      intro name value member
      cases member
  | (first, item) :: entries =>
      intro name value member kept rest ends
      rcases List.mem_cons.mp member with same | later
      · cases same
        rw [readEntry_prettyChars, read_prettyChars item room level distinct.1 ends,
          Option.map_map, rereadEntry, Option.map_map]
        rfl
      · exact readsEntries entries room level distinct.2 name value later kept rest ends

end

/-- The pretty text of a value is parsed to its rereading, within the nesting limit. -/
theorem parse_pretty {value : Value} (distinct : value.HasDistinctNames) :
    (parse value.pretty).toOption = value.reread maxNesting := by
  have read : (read maxNesting (prettyChars 0 value ++ [])).toOption = _ :=
    read_prettyChars value maxNesting 0 distinct rfl
  rw [List.append_nil] at read
  rw [parse, toOption_mapError, pretty, String.toList_ofList, toOption_bind, read]
  cases value.reread maxNesting <;> rfl

end Value

end NetworkIsolation.Json
