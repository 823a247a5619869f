import NetworkIsolation.Document.Reader
import NetworkIsolation.Proofs.Results

/-!
# Records read from values

What a record is when it has been read from the entries of an object.  The entries
come in any order, so the record is looked at part by part: a part that one field
decides is what that field's entry says, or what the record started with if there is
no such entry.
-/

namespace NetworkIsolation.Document

open NetworkIsolation.Json

namespace Reader

variable {α β : Type} {reader : Reader α} {value : Value}

theorem map_ofValue_eq_ok {transform : α → β} {result : β} :
    (reader.map transform).ofValue value = .ok result ↔
      ∃ found, reader.ofValue value = .ok found ∧ transform found = result := by
  simp only [Reader.map]
  cases reader.ofValue value with
  | error mismatch => simp [Except.map]
  | ok found => simp [Except.map]

theorem nullable_ofValue_cases {found? : Option α}
    (read : (Reader.nullable reader).ofValue value = .ok found?) :
    (value = .null ∧ found? = none) ∨
      ∃ found, reader.ofValue value = .ok found ∧ some found = found? := by
  cases value with
  | null =>
      cases read
      exact .inl ⟨rfl, rfl⟩
  | bool flag => exact .inr (map_ofValue_eq_ok.mp read)
  | number number => exact .inr (map_ofValue_eq_ok.mp read)
  | string text => exact .inr (map_ofValue_eq_ok.mp read)
  | array items => exact .inr (map_ofValue_eq_ok.mp read)
  | object entries => exact .inr (map_ofValue_eq_ok.mp read)

end Reader

namespace Record

variable {α β γ : Type} {record : Record α} {form : Field α → γ → Except Mismatch (α → α)}

theorem field?_eq_some {name : String} {field : Field α} (found : record.field? name = some field) :
    field ∈ record.fields ∧ field.name = name :=
  ⟨List.mem_of_find?_eq_some found, by simpa using List.find?_some found⟩

/-- The part of a record that one field decides, after its entries have been read. -/
theorem part_of_readEntries (part : α → β) (wanted : String) (read : γ → β)
    (known : wanted ∈ record.fieldNames)
    (changes : ∀ field ∈ record.fields, ∀ entry change, form field entry = .ok change →
      ∀ value, part (change value) = if field.name = wanted then read entry else part value)
    {entries : Entries γ} {start final : α} {seen : List String}
    (done : record.readEntries form entries (start, seen) = .ok final) :
    part final = if seen.contains wanted then part start
      else ((entries.get? wanted).map read).getD (part start) := by
  induction entries generalizing start seen with
  | nil =>
      rw [readEntries] at done
      split at done
      · cases done
      · cases done
        simp
  | cons entry entries induction_hypothesis =>
      rcases entry with ⟨name, entry⟩
      rw [readEntries] at done
      cases found : record.field? name with
      | none =>
          -- An entry that no field takes is passed over.
          have other : name ≠ wanted := by
            rintro rfl
            rcases List.mem_map.mp known with ⟨field, member, same⟩
            simpa [same] using List.find?_eq_none.mp found field member
          rw [found] at done
          dsimp only at done
          split at done
          · cases done
          · rw [Entries.get?, if_neg other]
            exact induction_hypothesis done
      | some field =>
          rcases field?_eq_some found with ⟨member, same⟩
          rw [found] at done
          dsimp only at done
          split at done
          · cases done
          · rename_i new
            rcases bind_eq_ok.mp done with ⟨change, entry_read, rest_read⟩
            have changed := changes field member entry change entry_read start
            rw [same] at changed
            rw [induction_hypothesis rest_read, changed, Entries.get?]
            by_cases wanted_here : name = wanted
            · subst wanted_here
              have new_name : name ∉ seen := by simpa using new
              simp [new_name]
            · have not_here : wanted ≠ name := Ne.symm wanted_here
              simp [wanted_here, not_here]

/-- A record is read from entries of distinct names, if nothing is required or refused. -/
theorem readEntries_eq_ok (lenient : record.strict = false)
    (optional : ∀ field ∈ record.fields, field.required = false) {entries : Entries γ}
    (distinct : (entries.map Prod.fst).Nodup)
    (reads : ∀ name entry, (name, entry) ∈ entries → ∀ field, record.field? name = some field →
      ∃ change, form field entry = .ok change)
    {start : α} {seen : List String} (new : ∀ name ∈ entries.map Prod.fst, name ∉ seen) :
    ∃ final, record.readEntries form entries (start, seen) = .ok final := by
  induction entries generalizing start seen with
  | nil =>
      have complete : record.missing? seen = none := by
        rw [missing?, Option.map_eq_none_iff, List.find?_eq_none]
        intro field member
        simp [optional field member]
      rw [readEntries, complete]
      exact ⟨start, rfl⟩
  | cons entry entries induction_hypothesis =>
      rcases entry with ⟨name, entry⟩
      rw [List.map_cons, List.nodup_cons] at distinct
      rw [List.map_cons, List.forall_mem_cons] at new
      have reads_rest := fun name entry member =>
        reads name entry (List.mem_cons_of_mem _ member)
      rw [readEntries]
      cases found : record.field? name with
      | none =>
          dsimp only
          rw [if_neg (by simp [lenient])]
          exact induction_hypothesis distinct.2 reads_rest new.2
      | some field =>
          rcases reads name entry List.mem_cons_self field found with ⟨change, entry_read⟩
          dsimp only
          rw [if_neg (by simpa using new.1), entry_read]
          refine induction_hypothesis distinct.2 reads_rest ?_
          intro other member seen_before
          rcases List.mem_cons.mp seen_before with rfl | seen_before
          · exact distinct.1 member
          · exact new.2 other member seen_before

end Record

end NetworkIsolation.Document
