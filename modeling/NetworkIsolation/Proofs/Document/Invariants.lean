import NetworkIsolation.Document.Reader
import NetworkIsolation.Proofs.Json.Parsed

/-!
# What every record has that was read

A record is read field by field, and each field changes it.  What holds of the record
before the first field, and what every change keeps, holds of every record that is read
from a text, in whichever order its entries come and whether it is an object or a list.
-/

namespace NetworkIsolation.Document

open NetworkIsolation.Json

namespace Reader

variable {α β : Type} {reader : Reader α} {room : Nat} {text rest : List Char}

theorem map_ofText_eq_ok {transform : α → β} {result : β} :
    (reader.map transform).ofText room text = .ok (result, rest) ↔
      ∃ found, reader.ofText room text = .ok (found, rest) ∧ transform found = result := by
  simp only [Reader.map, bind_eq_ok]
  constructor
  · rintro ⟨⟨found, behind⟩, read, same⟩
    cases same
    exact ⟨found, read, rfl⟩
  · rintro ⟨found, read, rfl⟩
    exact ⟨(found, rest), read, rfl⟩

/-- A bucket that is read is in order. -/
theorem wasRead_of_bucket {entries : Bucket}
    (read : Reader.bucket.ofText room text = .ok (entries, rest)) :
    (Value.object entries).WasRead room := by
  simp only [Reader.bucket] at read
  split at read
  · split at read
    · rename_i found
      cases read
      exact Value.wasRead_of_read found
    · cases read
    · cases read
  · cases read

end Reader

namespace Record

variable {α : Type} {record : Record α} {invariant : α → Prop} {value final : α}

/-- Whether the changes that fields read keep an invariant. -/
def FieldsKeep (record : Record α) (invariant : α → Prop) : Prop :=
  ∀ field ∈ record.fields, ∀ room text change rest,
    field.change.ofText room text = .ok (change, rest) → ∀ value, invariant value →
      invariant (change value)

theorem invariant_of_readEntry (keep : record.FieldsKeep invariant) {room : Nat}
    {state after : α × List String} {name : String} {text rest : List Char}
    (holds : invariant state.1)
    (read : record.readEntry room state name text = .ok (after, rest)) : invariant after.1 := by
  simp only [readEntry] at read
  split at read
  · split at read
    · cases read
    · simp only [bind_eq_ok] at read
      rcases read with ⟨behind, -, further, -, same⟩
      cases same
      exact holds
  · rename_i field found
    split at read
    · cases read
    · simp only [bind_eq_ok] at read
      rcases read with ⟨behind, -, ⟨change, further⟩, change_read, same⟩
      cases same
      exact keep field (List.mem_of_find?_eq_some found) _ _ _ _ change_read _ holds

theorem invariant_of_readItems (keep : record.FieldsKeep invariant) {room index : Nat}
    {fields : List (Field α)} (known : ∀ field ∈ fields, field ∈ record.fields)
    {text rest : List Char} (holds : invariant value)
    (read : record.readItems room fields index value text = .ok (final, rest)) :
    invariant final := by
  induction fields generalizing index value text with
  | nil =>
      cases read
      exact holds
  | cons field fields induction_hypothesis =>
      have later_known : ∀ other ∈ fields, other ∈ record.fields := fun other member =>
        known other (List.mem_cons_of_mem _ member)
      simp only [readItems, bind_eq_ok] at read
      rcases read with ⟨⟨more, behind⟩, -, read⟩
      split at read
      · rcases bind_eq_ok.mp read with ⟨⟨change, further⟩, change_read, later⟩
        exact induction_hypothesis later_known
          (keep field (known field List.mem_cons_self) _ _ _ _ change_read _ holds) later
      · split at read
        · cases read
        · exact induction_hypothesis later_known holds read

theorem invariant_of_ofText (keep : record.FieldsKeep invariant) (start : invariant record.start)
    {room : Nat} {text rest : List Char} (read : record.ofText room text = .ok (value, rest)) :
    invariant value := by
  simp only [ofText] at read
  split at read
  · split at read
    · cases read
    · simp only [bind_eq_ok] at read
      rcases read with ⟨⟨⟨found, seen⟩, behind⟩, entries_read, read⟩
      have holds : invariant found := invariant_of_scanEntries
        (fun _ _ _ _ _ holds entry_read => invariant_of_readEntry keep holds entry_read)
        start entries_read
      split at read
      · cases read
      · rcases bind_eq_ok.mp read with ⟨further, -, same⟩
        cases same
        exact holds
  · split at read
    · cases read
    · simp only [bind_eq_ok] at read
      rcases read with ⟨⟨found, behind⟩, items_read, further, -, same⟩
      cases same
      exact invariant_of_readItems keep (fun _ member => member) start items_read
  · cases read

/-- What the record has before the first field and every field keeps, every decoded record has. -/
theorem invariant_of_decode (keep : record.FieldsKeep invariant) (start : invariant record.start)
    {text : String} (decoded : record.reader.decode text = .ok value) : invariant value := by
  rw [Reader.decode, mapError_eq_ok] at decoded
  rcases bind_eq_ok.mp decoded with ⟨⟨found, rest⟩, read, decoded⟩
  rcases bind_eq_ok.mp decoded with ⟨_, -, same⟩
  cases same
  have read_record : record.ofText maxNesting text.toList = .ok (value, rest) := read
  exact invariant_of_ofText keep start read_record

end Record

end NetworkIsolation.Document
