import Mathlib.Data.List.Forall2
import NetworkIsolation.Proofs.Document.Values
import NetworkIsolation.Proofs.Json.Shape

/-!
# Which values are accepted

A reader gives something or reports what it missed.  A shape says of a value alone whether
it has the form that is asked for, and it can be computed.  Shapes are put together in the
same way as readers: from texts and truth values, by lists, mappings, records and `null`.

`Accepts` compares the two, over values in which no object has a name twice.  There is one
lemma for each combinator, so that the grammar of a reader is read off its definition.

A record has two forms, an object with its fields in any order and an array with its fields
in their own order.  `givenFor` is what either form gives for a field.  Each part of the
record that was read is decided by what is given for one field.
-/

namespace NetworkIsolation.Document

open NetworkIsolation.Json

/-! ## Shapes -/

/-- A form that values may have. -/
abbrev Shape := Value → Bool

namespace Shape

/-- A string. -/
def text : Shape
  | .string _ => true
  | _ => false

/-- A truth value. -/
def flag : Shape
  | .bool _ => true
  | _ => false

/-- A value of the form, or `null`. -/
def orNull (shape : Shape) : Shape
  | .null => true
  | value => shape value

/-- An array of any length, each item of the form. -/
def listOf (shape : Shape) : Shape
  | .array items => items.all shape
  | _ => false

/-- An object with any names, each value of the form. -/
def mappingTo (shape : Shape) : Shape
  | .object entries => entries.all fun entry => shape entry.2
  | _ => false

/--
An object whose fields are absent or of their forms, with any other names beside them; or
an array of at most as many items as there are fields, each of the form of the field at
its place.
-/
def recordOf (fields : List (String × Shape)) : Shape
  | .object entries => fields.all fun field => (Entries.get? entries field.1).all field.2
  | .array items =>
    decide (items.length ≤ fields.length) &&
      (fields.zip items).all fun placed => placed.1.2 placed.2
  | _ => false

end Shape

/-! ## Readers and their shapes -/

/-- The reader gives something exactly for values of the shape. -/
def Accepts {α : Type} (reader : Reader α) (shape : Shape) : Prop :=
  ∀ value : Value, value.HasDistinctNames →
    ((∃ found, reader.ofValue value = .ok found) ↔ shape value = true)

section

variable {α β : Type} {reader : Reader α} {shape : Shape}

theorem accepts_string : Accepts Reader.string .text := by
  intro value distinct
  cases value <;> simp [Reader.string, Reader.stringCalled, Shape.text]

theorem accepts_bool : Accepts Reader.bool .flag := by
  intro value distinct
  cases value <;> simp [Reader.bool, Shape.flag]

theorem Accepts.map (accepts : Accepts reader shape) (transform : α → β) :
    Accepts (reader.map transform) shape := by
  intro value distinct
  rw [← accepts value distinct]
  constructor
  · rintro ⟨result, read⟩
    rcases Reader.map_ofValue_eq_ok.mp read with ⟨found, found_read, -⟩
    exact ⟨found, found_read⟩
  · rintro ⟨found, found_read⟩
    exact ⟨transform found, Reader.map_ofValue_eq_ok.mpr ⟨found, found_read, rfl⟩⟩

theorem Accepts.nullable (accepts : Accepts reader shape) :
    Accepts (Reader.nullable reader) (.orNull shape) := by
  intro value distinct
  have otherwise := accepts.map some value distinct
  cases value with
  | null => exact ⟨fun _ => rfl, fun _ => ⟨none, rfl⟩⟩
  | bool flag => exact otherwise
  | number number => exact otherwise
  | string text => exact otherwise
  | array items => exact otherwise
  | object entries => exact otherwise

theorem Accepts.list (accepts : Accepts reader shape) :
    Accepts (Reader.list reader) (.listOf shape) := by
  intro value distinct
  cases value with
  | array items =>
      rw [Shape.listOf, List.all_eq_true]
      refine exists_mapM_ok_iff.trans (forall₂_congr fun item member => ?_)
      exact accepts item (distinct.item member)
  | _ => simp [Reader.list, Shape.listOf]

theorem Accepts.mapping (accepts : Accepts reader shape) (expected : String) :
    Accepts (Reader.mappingCalled expected reader) (.mappingTo shape) := by
  intro value distinct
  cases value with
  | object entries =>
      rw [Shape.mappingTo, List.all_eq_true]
      refine exists_mapM_ok_iff.trans (forall₂_congr fun entry member => ?_)
      rw [← accepts entry.2 (distinct.entry member)]
      constructor
      · rintro ⟨found, entry_read⟩
        rcases bind_eq_ok.mp entry_read with ⟨value, value_read, -⟩
        exact ⟨value, value_read⟩
      · rintro ⟨value, value_read⟩
        rw [value_read]
        exact ⟨(entry.1, value), rfl⟩
  | _ => simp [Reader.mappingCalled, Shape.mappingTo]

end

/-! ## Records -/

/-- What is said of the items of two lists alike holds of all of the one if of all of the other. -/
theorem forall_mem_iff_of_forall₂ {ι κ : Type} {related : ι → κ → Prop} {items : List ι}
    {others : List κ} (pairs : List.Forall₂ related items others) {holds : ι → Prop}
    {holds_too : κ → Prop}
    (alike : ∀ item other, related item other → (holds item ↔ holds_too other)) :
    (∀ item ∈ items, holds item) ↔ ∀ other ∈ others, holds_too other := by
  induction pairs with
  | nil => simp
  | cons pair pairs induction_hypothesis =>
      rw [List.forall_mem_cons, List.forall_mem_cons, alike _ _ pair, induction_hypothesis]

namespace Record

variable {α γ : Type} {record : Record α}

/-- The field and the form that stand at the same place of a record. -/
def Fits (field : Field α) (shape : String × Shape) : Prop :=
  field.name = shape.1 ∧ Accepts field.change shape.2

section

variable {form : Field α → γ → Except Mismatch (α → α)}

theorem find?_of_mem {fields : List (Field α)} (distinct : (fields.map Field.name).Nodup)
    {field : Field α} (member : field ∈ fields) :
    fields.find? (fun other => other.name = field.name) = some field := by
  induction fields with
  | nil => cases member
  | cons first fields induction_hypothesis =>
      rw [List.map_cons, List.nodup_cons] at distinct
      rcases List.mem_cons.mp member with rfl | later
      · simp
      · have different : first.name ≠ field.name := by
          intro same
          exact distinct.1 (same ▸ List.mem_map_of_mem later)
        rw [List.find?_cons_of_neg (by simpa using different)]
        exact induction_hypothesis distinct.2 later

/-- A field of a record is found by its name. -/
theorem field?_of_mem (distinct : record.fieldNames.Nodup) {field : Field α}
    (member : field ∈ record.fields) : record.field? field.name = some field :=
  find?_of_mem distinct member

/-- Where a record was read, the entry of each field was read. -/
theorem exists_change_of_readEntries {entries : Entries γ} {start final : α}
    {seen : List String} (done : record.readEntries form entries (start, seen) = .ok final)
    {name : String} {entry : γ} (member : (name, entry) ∈ entries) {field : Field α}
    (found : record.field? name = some field) : ∃ change, form field entry = .ok change := by
  induction entries generalizing start seen with
  | nil => cases member
  | cons first entries induction_hypothesis =>
      rcases first with ⟨first_name, first_entry⟩
      rw [readEntries] at done
      cases first_found : record.field? first_name with
      | none =>
          rw [first_found] at done
          dsimp only at done
          split at done
          · cases done
          · rcases List.mem_cons.mp member with same | later
            · cases same
              rw [found] at first_found
              cases first_found
            · exact induction_hypothesis done later
      | some first_field =>
          rw [first_found] at done
          dsimp only at done
          split at done
          · cases done
          · rcases bind_eq_ok.mp done with ⟨change, first_read, rest_read⟩
            rcases List.mem_cons.mp member with same | later
            · cases same
              rw [found] at first_found
              cases first_found
              exact ⟨change, first_read⟩
            · exact induction_hypothesis rest_read later

/-- Without required fields, the items that are left are those beyond the last field. -/
theorem left_of_readPositions {fields : List (Field α)}
    (optional : ∀ field ∈ fields, field.required = false) {index : Nat} {items left : List γ}
    {start final : α}
    (done : record.readPositions form fields index items start = .ok (final, left)) :
    left = items.drop fields.length := by
  induction fields generalizing index items start with
  | nil =>
      cases done
      rfl
  | cons field fields induction_hypothesis =>
      rw [List.forall_mem_cons] at optional
      cases items with
      | nil =>
          rw [readPositions, if_neg (by simp [optional.1])] at done
          rw [induction_hypothesis optional.2 done, List.drop_nil, List.drop_nil]
      | cons item items =>
          rcases bind_eq_ok.mp done with ⟨change, -, rest_read⟩
          exact induction_hypothesis optional.2 rest_read

/-- Without required fields, an array is read exactly if each item is of its field's form. -/
theorem exists_readPositions_iff {fields : List (Field α)} {shapes : List (String × Shape)}
    (fits : List.Forall₂ Fits fields shapes)
    (optional : ∀ field ∈ fields, field.required = false) {items : List Value}
    (distinct : (Value.array items).HasDistinctNames) (index : Nat) (start : α) :
    (∃ result, record.readPositions (fun field item => field.change.ofValue item) fields index
        items start = .ok result) ↔
      ((shapes.zip items).all fun placed => placed.1.2 placed.2) = true := by
  induction fits generalizing items index start with
  | nil => exact ⟨fun _ => rfl, fun _ => ⟨(start, items), rfl⟩⟩
  | @cons field shape fields shapes fit fits induction_hypothesis =>
      rw [List.forall_mem_cons] at optional
      cases items with
      | nil =>
          have rest := induction_hypothesis optional.2 distinct index start
          rw [List.zip_nil_right] at rest ⊢
          rw [readPositions, if_neg (by simp [optional.1])]
          exact rest
      | cons item items =>
          rw [List.zip_cons_cons, List.all_cons, Bool.and_eq_true, ← fit.2 item distinct.1,
            readPositions]
          constructor
          · rintro ⟨result, read⟩
            rcases bind_eq_ok.mp read with ⟨change, item_read, rest_read⟩
            exact ⟨⟨change, item_read⟩, (induction_hypothesis optional.2 distinct.2 _ _).mp
              ⟨result, rest_read⟩⟩
          · rintro ⟨⟨change, item_read⟩, rest⟩
            rw [item_read]
            exact (induction_hypothesis optional.2 distinct.2 _ _).mpr rest

/-- Without required fields, an object is read exactly if the entry of each field is read. -/
theorem exists_readEntries_iff (lenient : record.strict = false)
    (optional : ∀ field ∈ record.fields, field.required = false)
    (names : record.fieldNames.Nodup) {entries : Entries γ}
    (distinct : (entries.map Prod.fst).Nodup) :
    (∃ final, record.readEntries form entries (record.start, []) = .ok final) ↔
      ∀ field ∈ record.fields, ∀ entry, Entries.get? entries field.name = some entry →
        ∃ change, form field entry = .ok change := by
  constructor
  · rintro ⟨final, done⟩ field member entry found
    exact exists_change_of_readEntries done ((Entries.get?_eq_some distinct).mp found)
      (field?_of_mem names member)
  · intro each
    refine readEntries_eq_ok lenient optional distinct ?_ (by simp)
    intro name entry member field found
    rcases field?_eq_some found with ⟨field_member, rfl⟩
    exact each field field_member entry ((Entries.get?_eq_some distinct).mpr member)

end

/-- A record accepts what its fields accept, unless it is strict or requires a field. -/
theorem accepts (lenient : record.strict = false)
    (optional : ∀ field ∈ record.fields, field.required = false)
    (names : record.fieldNames.Nodup) {shapes : List (String × Shape)}
    (fits : List.Forall₂ Fits record.fields shapes) :
    Accepts record.reader (.recordOf shapes) := by
  intro value distinct
  cases value with
  | object entries =>
      rw [Shape.recordOf, List.all_eq_true]
      refine (exists_readEntries_iff lenient optional names distinct.1).trans ?_
      refine forall_mem_iff_of_forall₂ fits fun field shape fit => ?_
      rw [fit.1, Option.all_eq_true]
      refine forall₂_congr fun entry found => ?_
      have member := (Entries.get?_eq_some distinct.1).mp found
      exact fit.2 entry (distinct.entry member)
  | array items =>
      rw [Shape.recordOf, Bool.and_eq_true, decide_eq_true_iff, ← fits.length_eq,
        ← exists_readPositions_iff fits optional distinct 0 record.start]
      constructor
      · rintro ⟨final, done⟩
        rcases bind_eq_ok.mp done with ⟨⟨found, left⟩, read, checked⟩
        dsimp only at checked
        split at checked
        · rename_i none_left
          rw [left_of_readPositions optional read, List.isEmpty_iff, List.drop_eq_nil_iff]
            at none_left
          exact ⟨none_left, _, read⟩
        · cases checked
      · rintro ⟨short, ⟨found, left⟩, read⟩
        have none_left : left.isEmpty = true := by
          rw [left_of_readPositions optional read, List.isEmpty_iff, List.drop_eq_nil_iff]
          exact short
        refine ⟨found, ?_⟩
        change record.ofValue (.array items) = .ok found
        rw [ofValue, read, ok_bind]
        exact if_pos none_left
  | _ => simp [reader, ofValue, Shape.recordOf]

end Record

/-! ## What is given for a field -/

/-- What a value gives for a field, in an object by its name and in an array by its place. -/
def givenFor (fields : List String) (name : String) : Value → Option Value
  | .object entries => Entries.get? entries name
  | .array items => items[fields.idxOf name]?
  | _ => none

namespace Record

variable {α β γ : Type} {record : Record α}

/-- The part of a record that one field decides, after its items have been read. -/
theorem part_of_readPositions {form : Field α → γ → Except Mismatch (α → α)} (part : α → β)
    (wanted : String) (read : γ → β) {fields : List (Field α)}
    (distinct : (fields.map Field.name).Nodup)
    (changes : ∀ field ∈ fields, ∀ entry change, form field entry = .ok change →
      ∀ value, part (change value) = if field.name = wanted then read entry else part value)
    {index : Nat} {items left : List γ} {start final : α}
    (done : record.readPositions form fields index items start = .ok (final, left)) :
    part final = if wanted ∈ fields.map Field.name then
        (items[(fields.map Field.name).idxOf wanted]?.map read).getD (part start)
      else part start := by
  induction fields generalizing index items start with
  | nil =>
      cases done
      simp
  | cons field fields induction_hypothesis =>
      rw [List.map_cons, List.nodup_cons] at distinct
      rw [List.forall_mem_cons] at changes
      cases items with
      | nil =>
          rw [readPositions] at done
          split at done
          · cases done
          · rw [induction_hypothesis distinct.2 changes.2 done]
            simp
      | cons item items =>
          rcases bind_eq_ok.mp done with ⟨change, item_read, rest_read⟩
          rw [induction_hypothesis distinct.2 changes.2 rest_read,
            changes.1 item change item_read]
          by_cases here : field.name = wanted
          · subst here
            simp [distinct.1]
          · have not_here : ¬wanted = field.name := Ne.symm here
            simp [here, not_here, List.idxOf_cons_ne _ here]

/-- The part of a record that one field decides is what is given for that field. -/
theorem part_of_ofValue (part : α → β) (wanted : String) (read : Value → β)
    (names : record.fieldNames.Nodup) (known : wanted ∈ record.fieldNames)
    (changes : ∀ field ∈ record.fields, ∀ entry change,
      field.change.ofValue entry = .ok change →
      ∀ value, part (change value) = if field.name = wanted then read entry else part value)
    {value : Value} {final : α} (done : record.ofValue value = .ok final) :
    part final =
      ((givenFor record.fieldNames wanted value).map read).getD (part record.start) := by
  cases value with
  | object entries => exact part_of_readEntries part wanted read known changes done
  | array items =>
      rcases bind_eq_ok.mp done with ⟨⟨found, left⟩, positions_read, checked⟩
      dsimp only at checked
      split at checked
      · cases checked
        have decided := part_of_readPositions part wanted read names changes positions_read
        have among : wanted ∈ record.fields.map Field.name := known
        rw [if_pos among] at decided
        exact decided
      · cases checked
  | _ => cases done

end Record

end NetworkIsolation.Document
