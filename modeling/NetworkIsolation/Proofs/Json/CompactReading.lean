import NetworkIsolation.Proofs.Json.Compact
import NetworkIsolation.Proofs.Json.RoundTrip

/-!
# Compact texts are read back

The compact text of a value has no blanks, but is otherwise like the pretty one, and the
same rereading is read from it.  The induction is over the value with what stands behind it:
a list is read item by item at its commas, and an item is over where a comma or a bracket
follows, which no number goes on with.
-/

namespace NetworkIsolation.Json

namespace Value

/-! ## The first character -/

theorem beginsValue_of_kindMark {character : Char} {value : Value}
    (marked : kindMark character = value.mark) : beginsValue character = true := by
  rw [kindMark] at marked
  split at marked
  · rename_i is_digit
    simp [beginsValue, is_digit]
  · split at marked
    · rename_i is_f
      rw [is_f]
      decide
    · rw [marked]
      cases value <;> rfl

theorem compactChars_starts (value : Value) :
    ∃ first others, compactChars value = first :: others ∧ beginsValue first = true := by
  rcases compactChars_begins value with ⟨first, others, printed, marked⟩
  exact ⟨first, others, printed, beginsValue_of_kindMark marked⟩

theorem skipSpace_compactChars (value : Value) (rest : List Char) :
    skipSpace (compactChars value ++ rest) = compactChars value ++ rest := by
  rcases compactChars_starts value with ⟨first, others, printed, begins⟩
  apply skipSpace_of_no_space
  rw [printed]
  simpa using (beginsValue_no_space begins).1

/-! ## Items and entries -/

theorem behindCommas_append {α : Type} (print : α → List Char) (item : α) (items : List α)
    (tail : List Char) :
    behindCommas print (item :: items) ++ tail =
      ',' :: (print item ++ (behindCommas print items ++ tail)) := by
  simp [behindCommas]

theorem compactEntry_append (name : String) (value : Value) (tail : List Char) :
    compactEntry (name, value) ++ tail =
      stringChars name ++ ':' :: (compactChars value ++ tail) := by
  simp [compactEntry]

/-- The first item of an array is found right behind the bracket. -/
theorem moreItems_compact_first (item : Value) (rest : List Char) :
    moreItems true (compactChars item ++ rest) = .ok (true, compactChars item ++ rest) := by
  rcases compactChars_starts item with ⟨first, others, printed, begins⟩
  rcases beginsValue_no_space begins with ⟨-, no_bracket, -⟩
  rw [moreItems, skipSpace_compactChars, printed, List.cons_append]
  split
  · contradiction
  · rename_i same
    cases same
    exact absurd rfl no_bracket
  · rename_i same
    cases same
    rfl

/-- A further item is found right behind the comma. -/
theorem moreItems_compact_later (item : Value) (items : List Value) (rest : List Char) :
    moreItems false (behindCommas compactChars (item :: items) ++ rest) =
      .ok (true, compactChars item ++ (behindCommas compactChars items ++ rest)) := by
  have found := skipSpace_compactChars item (behindCommas compactChars items ++ rest)
  rcases compactChars_starts item with ⟨first, others, printed, begins⟩
  rw [behindCommas_append]
  rw [printed, List.cons_append] at found ⊢
  exact moreItems_comma found (beginsValue_no_space begins).2.1

theorem moreEntries_compact_first (name : String) (value : Value) (rest : List Char) :
    moreEntries true (compactEntry (name, value) ++ rest) =
      .ok (true, stringChars name ++ ':' :: (compactChars value ++ rest)) := by
  rw [compactEntry_append]
  rfl

theorem moreEntries_compact_later (name : String) (value : Value)
    (entries : List (String × Value)) (rest : List Char) :
    moreEntries false (behindCommas compactEntry ((name, value) :: entries) ++ rest) =
      .ok (true, stringChars name ++
        ':' :: (compactChars value ++ (behindCommas compactEntry entries ++ rest))) := by
  rw [behindCommas_append, compactEntry_append]
  rfl

/-- Whether the rereading of a value is read from its compact text, whatever follows. -/
def ReadsCompact (value : Value) : Prop :=
  ∀ room rest, endsNumber rest = true →
    (read room (compactChars value ++ rest)).toOption =
      (value.reread room).map fun found => (found, rest)

section

variable {items : List Value} {entries : List (String × Value)} {room : Nat} {rest : List Char}

theorem length_le_behindCommas {α : Type} (print : α → List Char) (items : List α) :
    items.length ≤ (behindCommas print items).length := by
  induction items with
  | nil => exact Nat.zero_le _
  | cons item items induction_hypothesis =>
      have text : behindCommas print (item :: items) =
          ',' :: (print item ++ behindCommas print items) := by
        simp [behindCommas]
      rw [text]
      simp only [List.length_cons, List.length_append]
      omega

/-- An array is scanned if each of its items is read. -/
theorem scanList_withCommas (reads : ∀ item ∈ items, item.ReadsCompact) :
    (scanList (fun text => read room text)
        (withCommas compactChars items ++ ']' :: rest)).toOption =
      (items.mapM (reread room)).map fun found => (found, rest) := by
  apply scanList_of_items
  cases items with
  | nil => rfl
  | cons item items =>
      let later (items : List Value) : List Char := behindCommas compactChars items ++ ']' :: rest
      let text (value : Value) (after : List Char) : List Char := compactChars value ++ after
      have more : ∀ value others, moreItems false (later (value :: others)) =
          .ok (true, text value (later others)) :=
        fun value others => moreItems_compact_later value others _
      have reads_later : ∀ other ∈ item :: items, ∀ others,
          (read room (text other (later others))).toOption =
            (other.reread room).map fun found => (found, later others) :=
        fun other member others => reads other member room _ (endsNumber_behindCommas others rfl)
      have enough : items.length < (compactChars item ++ later items).length := by
        have shorter := length_le_behindCommas compactChars items
        simp only [later, List.length_append, List.length_cons]
        omega
      rw [withCommas, List.append_assoc]
      exact scanItems_whole (moreItems_compact_first item _) more rfl reads_later enough

/-- Behind the colon the value of an entry is read. -/
theorem readEntry_compactChars {value : Value} (reads : value.ReadsCompact) (entries : Bucket)
    (name : String) (ends : endsNumber rest = true) :
    (readEntry room entries name (':' :: (compactChars value ++ rest))).toOption =
      (rereadEntry room entries (name, value)).map fun found => (found, rest) := by
  have colon : scanColon (':' :: (compactChars value ++ rest)) =
      .ok (compactChars value ++ rest) := rfl
  rw [readEntry, colon, ok_bind, toOption_bind, reads room rest ends, rereadEntry]
  cases reread room value <;> rfl

/-- An object is scanned if the value of each of its entries is read. -/
theorem scanObject_withCommas (reads : ∀ entry ∈ entries, entry.2.ReadsCompact) :
    (scanObject (readEntry room) [] (withCommas compactEntry entries ++ '}' :: rest)).toOption =
      (entries.foldlM (rereadEntry room) []).map fun found => (found, rest) := by
  apply scanObject_of_entries
  cases entries with
  | nil => rfl
  | cons entry entries =>
      rcases entry with ⟨name, value⟩
      let later (entries : List (String × Value)) : List Char :=
        behindCommas compactEntry entries ++ '}' :: rest
      let text (value : Value) (after : List Char) : List Char :=
        ':' :: (compactChars value ++ after)
      have more : ∀ name value others, moreEntries false (later ((name, value) :: others)) =
          .ok (true, stringChars name ++ text value (later others)) :=
        fun name value others => moreEntries_compact_later name value others _
      have reads_later : ∀ other kept, (other, kept) ∈ (name, value) :: entries →
          ∀ found others, (readEntry room found other (text kept (later others))).toOption =
            (rereadEntry room found (other, kept)).map fun found => (found, later others) :=
        fun other kept member found others =>
          readEntry_compactChars (reads _ member) found other (endsNumber_behindCommas others rfl)
      have enough : entries.length < (compactEntry (name, value) ++ later entries).length := by
        have shorter := length_le_behindCommas compactEntry entries
        simp only [later, List.length_append, List.length_cons]
        omega
      rw [withCommas, List.append_assoc]
      exact scanEntries_whole (moreEntries_compact_first name value _) more rfl reads_later
        enough []

end

/-! ## Values -/

/-- From the compact text of a value its rereading is read. -/
theorem readsCompact {value : Value} (distinct : value.HasDistinctNames) : value.ReadsCompact := by
  induction value using inductionOnParts with
  | null =>
      intro room rest ends
      cases room <;> rfl
  | bool value =>
      intro room rest ends
      cases value <;> cases room <;> rfl
  | number kept =>
      intro room rest ends
      rw [compactChars, read_number room kept ends, reread, Option.map_map]
      rfl
  | string text =>
      intro room rest ends
      rw [compactChars, read_string, reread]
      rfl
  | array items each =>
      intro room rest ends
      have text : compactChars (.array items) ++ rest =
          '[' :: (withCommas compactChars items ++ ']' :: rest) := by
        simp [compactChars, compactItems_eq]
      cases room with
      | zero =>
          rw [text]
          rfl
      | succ room =>
          rw [text, read_array, scanList_withCommas fun item member =>
            each item member (distinct.item member), reread, rereadItems_eq_mapM, Option.map_map,
            Option.map_map]
          rfl
  | object entries each =>
      intro room rest ends
      have text : compactChars (.object entries) ++ rest =
          '{' :: (withCommas compactEntry entries ++ '}' :: rest) := by
        simp [compactChars, compactEntries_eq]
      cases room with
      | zero =>
          rw [text]
          rfl
      | succ room =>
          have names : ([] ++ entries.map Prod.fst : List String).Nodup := distinct.1
          have collected : entries.foldlM (rereadEntry room) [] = _ :=
            foldlM_rereadEntry room names
          rw [text, read_object, scanObject_withCommas fun entry member =>
            each entry member (distinct.entry member), collected, reread, Option.map_map,
            Option.map_map, Option.map_map]
          rfl

/-- The compact text of a value is parsed to its rereading, within the nesting limit. -/
theorem parse_compact {value : Value} (distinct : value.HasDistinctNames) :
    (parse value.compact).toOption = value.reread maxNesting := by
  have read : (read maxNesting (compactChars value ++ [])).toOption = _ :=
    readsCompact distinct maxNesting [] rfl
  rw [List.append_nil] at read
  rw [parse, toOption_mapError, compact, String.toList_ofList, toOption_bind, read]
  cases value.reread maxNesting <;> rfl

end Value

end NetworkIsolation.Json
