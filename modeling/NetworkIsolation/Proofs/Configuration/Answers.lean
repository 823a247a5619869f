import NetworkIsolation.Configuration.Answers
import NetworkIsolation.Proofs.Document.Values

/-!
# Answers that are read again

What the readers of answers find in the buckets that the library itself puts
together.  The flag and the spaces of an accepted document are described by looking
up its entries, without the readers: `importEnabled` is the flag, and `documentSpaces`
are the spaces.  Ranges that were written are read again, whatever variables were there.
-/

namespace NetworkIsolation.Configuration

open NetworkIsolation.Document NetworkIsolation.Json

/-! ## Spaces of a document -/

/-- The text of a string. -/
def textOf? : Value → Option String
  | .string text => some text
  | _ => none

/-- The strings of an array. -/
def textsOf : Value → List String
  | .array items => items.filterMap textOf?
  | _ => []

/-- The subnets of a spec, which may also be a list with the subnets as its first item. -/
def subnetsOf : Value → List String
  | .object spec => ((Entries.get? spec "subnets").map textsOf).getD []
  | .array items => (items.head?.map textsOf).getD []
  | _ => []

/-- The spaces of a value, in the order of its entries. -/
def spacesOf : Value → List Space
  | .object entries => entries.map fun entry => ⟨entry.1, subnetsOf entry.2⟩
  | _ => []

/-- The spaces of a document. -/
def documentSpaces (document : Bucket) : List Space :=
  ((document.get? "spaces").map spacesOf).getD []

theorem textOf?_of_string {value : Value} {text : String}
    (read : Reader.string.ofValue value = .ok text) : some text = textOf? value := by
  cases value with
  | string found =>
      cases read
      rfl
  | _ => cases read

theorem bool?_of_bool {value : Value} {flag : Bool}
    (read : Reader.bool.ofValue value = .ok flag) : some flag = value.bool? := by
  cases value with
  | bool found =>
      cases read
      rfl
  | _ => cases read

theorem textsOf_of_list {value : Value} {texts : List String}
    (read : (Reader.list .string).ofValue value = .ok texts) : texts = textsOf value := by
  cases value with
  | array items =>
      have same : texts.map some = items.map textOf? :=
        map_of_mapM_ok (fun _ _ => textOf?_of_string) read
      have found := congrArg (List.filterMap id) same
      simpa [List.filterMap_map, textsOf, Function.comp_def] using found
  | _ => cases read

/-- Subnets that are `null` are no subnets. -/
theorem textsOf_of_nullable {value : Value} {texts? : Option (List String)}
    (read : (Reader.nullable (.list .string)).ofValue value = .ok texts?) :
    texts?.getD [] = textsOf value := by
  rcases Reader.nullable_ofValue_cases read with ⟨rfl, rfl⟩ | ⟨texts, list_read, rfl⟩
  · rfl
  · exact textsOf_of_list list_read

theorem subnetsOf_of_spec {value : Value} {subnets : List String}
    (read : spaceSpec.ofValue value = .ok subnets) : subnets = subnetsOf value := by
  cases value with
  | object spec =>
      refine Record.part_of_readEntries id "subnets" textsOf (by decide) ?_ read
      intro field member entry change entry_read before
      rcases List.mem_singleton.mp member with rfl
      rcases Reader.map_ofValue_eq_ok.mp entry_read with ⟨found, subnets_read, rfl⟩
      exact textsOf_of_nullable subnets_read
  | array items =>
      cases items with
      | nil =>
          cases read
          rfl
      | cons first items =>
          rcases bind_eq_ok.mp read with ⟨⟨found, left⟩, positions_read, checked⟩
          rcases bind_eq_ok.mp positions_read with ⟨change, first_read, same⟩
          rcases Reader.map_ofValue_eq_ok.mp first_read with ⟨texts?, subnets_read, rfl⟩
          cases same
          dsimp only at checked
          split at checked
          · cases checked
            exact textsOf_of_nullable subnets_read
          · cases checked
  | _ => cases read

theorem spacesOf_of_reader {value : Value} {spaces : List Space}
    (read : spacesReader.ofValue value = .ok spaces) : spaces = spacesOf value := by
  rcases Reader.map_ofValue_eq_ok.mp read with ⟨entries?, entries_read, rfl⟩
  rcases Reader.nullable_ofValue_cases entries_read with ⟨rfl, rfl⟩ | ⟨found, mapping_read, rfl⟩
  · rfl
  · cases value with
    | object entries =>
        refine map_of_mapM_ok ?_ mapping_read
        rintro ⟨name, spec⟩ found entry_read
        rcases bind_eq_ok.mp entry_read with ⟨subnets?, spec_read, same⟩
        cases same
        rcases Reader.nullable_ofValue_cases spec_read with
          ⟨null, rfl⟩ | ⟨subnets, record_read, rfl⟩
        · dsimp only at null
          rw [null]
          rfl
        · rw [Option.getD_some, subnetsOf_of_spec record_read]
    | _ => cases mapping_read

theorem isolation_fields {field : Document.Field IsolationSection}
    (member : field ∈ IsolationSection.record.fields) :
    field = .allow "enable_isolation" (.nullable .bool)
        (fun flag part => { part with enabled := flag.getD false }) ∨
      field = .allow "spaces" spacesReader (fun spaces part => { part with spaces }) := by
  simpa [IsolationSection.record] using member

/-- The flag is decided by the field that it is called by. -/
theorem enabled_of_change {field : Document.Field IsolationSection}
    (member : field ∈ IsolationSection.record.fields) {entry : Value}
    {change : IsolationSection → IsolationSection} (read : field.change.ofValue entry = .ok change)
    (before : IsolationSection) :
    (change before).enabled =
      if field.name = "enable_isolation" then entry.bool?.getD false else before.enabled := by
  rcases isolation_fields member with rfl | rfl
  · rcases Reader.map_ofValue_eq_ok.mp read with ⟨flag?, flag_read, rfl⟩
    rcases Reader.nullable_ofValue_cases flag_read with ⟨rfl, rfl⟩ | ⟨flag, bool_read, rfl⟩
    · rfl
    · change flag = entry.bool?.getD false
      rw [← bool?_of_bool bool_read]
      rfl
  · rcases Reader.map_ofValue_eq_ok.mp read with ⟨spaces, -, rfl⟩
    rfl

/-- The spaces are decided by the field that they are called by. -/
theorem spaces_of_change {field : Document.Field IsolationSection}
    (member : field ∈ IsolationSection.record.fields) {entry : Value}
    {change : IsolationSection → IsolationSection} (read : field.change.ofValue entry = .ok change)
    (before : IsolationSection) :
    (change before).spaces =
      if field.name = "spaces" then spacesOf entry else before.spaces := by
  rcases isolation_fields member with rfl | rfl
  · rcases Reader.map_ofValue_eq_ok.mp read with ⟨flag?, -, rfl⟩
    rfl
  · rcases Reader.map_ofValue_eq_ok.mp read with ⟨spaces, spaces_read, rfl⟩
    exact spacesOf_of_reader spaces_read

theorem enabled_of_document {document : Bucket} {part : IsolationSection}
    (read : IsolationSection.record.ofValue (.object document) = .ok part) :
    part.enabled = importEnabled document := by
  have decided := Record.part_of_readEntries IsolationSection.enabled "enable_isolation"
    (fun value => value.bool?.getD false) (by decide)
    (fun _ member _ _ entry_read => enabled_of_change member entry_read) read
  rw [decided, importEnabled]
  cases document.get? "enable_isolation" <;> rfl

theorem spaces_of_document {document : Bucket} {part : IsolationSection}
    (read : IsolationSection.record.ofValue (.object document) = .ok part) :
    part.spaces = documentSpaces document :=
  Record.part_of_readEntries IsolationSection.spaces "spaces" spacesOf (by decide)
    (fun _ member _ _ entry_read => spaces_of_change member entry_read) read

/-- A document that was accepted is an isolation section with its flag and its spaces. -/
theorem isolationSection_isolationBucket {text : String} {document : Bucket}
    (accepted : parseImport text = .ok document) :
    isolationSection (isolationBucket document) =
      .ok ⟨importEnabled document, documentSpaces document⟩ := by
  rcases bind_eq_ok.mp accepted with ⟨value, -, checked⟩
  cases value with
  | object entries =>
      rcases bind_eq_ok.mp checked with ⟨part, part_read, same⟩
      cases same
      rw [mapError_eq_ok] at part_read
      have stored : isolationSection (isolationBucket document) =
          (IsolationSection.record.ofValue (.object document)).mapError
            fun cause => .badAnswers isolationKey cause := rfl
      rw [stored, part_read, mapError_ok, ← enabled_of_document part_read,
        ← spaces_of_document part_read]
  | _ => cases checked

/-! ## Ranges in the variables -/

section

variable {part : Bucket} (distinct : (part.map Prod.fst).Nodup) (name : String)
  (text? : Option String)

include distinct

theorem nodup_names_setVariable : ((setVariable part name text?).map Prod.fst).Nodup := by
  cases text? with
  | none => exact Entries.nodup_names_swapErase distinct name
  | some text => exact Entries.nodup_names_insert distinct name _

theorem get?_setVariable_self :
    (setVariable part name text?).get? name = text?.map .string := by
  cases text? with
  | none => exact Entries.get?_swapErase_self distinct name
  | some text => exact Entries.get?_insert_self part name _

theorem get?_setVariable_of_ne {other : String} (different : name ≠ other) :
    (setVariable part name text?).get? other = part.get? other := by
  cases text? with
  | none => exact Entries.get?_swapErase_of_ne distinct different
  | some text => exact Entries.get?_insert_of_ne part _ different

end

theorem nodup_names_setRangeVariables {part : Bucket} (distinct : (part.map Prod.fst).Nodup)
    (ranges : PoolRanges) : ((setRangeVariables part ranges).map Prod.fst).Nodup :=
  nodup_names_setVariable (nodup_names_setVariable (nodup_names_setVariable distinct _ _) _ _) _ _

/-- Each variable holds its range after all three have been written. -/
theorem get?_setRangeVariables {part : Bucket} (distinct : (part.map Prod.fst).Nodup)
    (ranges : PoolRanges) :
    (setRangeVariables part ranges).get? publicVariable = ranges.publicRange.map .string ∧
      (setRangeVariables part ranges).get? internalVariable = ranges.internalRange.map .string ∧
      (setRangeVariables part ranges).get? sharedVariable = ranges.sharedRange.map .string := by
  have after_public := nodup_names_setVariable distinct publicVariable ranges.publicRange
  have after_internal :=
    nodup_names_setVariable after_public internalVariable ranges.internalRange
  rw [setRangeVariables]
  refine ⟨?_, ?_, get?_setVariable_self after_internal _ _⟩
  · rw [get?_setVariable_of_ne after_internal _ _ (by decide),
      get?_setVariable_of_ne after_public _ _ (by decide), get?_setVariable_self distinct]
  · rw [get?_setVariable_of_ne after_internal _ _ (by decide), get?_setVariable_self after_public]

@[simp]
theorem addonsVariables_setPoolRanges (bucket : Bucket) (ranges : PoolRanges) :
    addonsVariables (setPoolRanges bucket ranges) =
      setRangeVariables (addonsVariables bucket) ranges := by
  have stored := Entries.get?_insert_self bucket addonsSectionName
    (.object (setRangeVariables (addonsVariables bucket) ranges))
  rw [addonsVariables, setPoolRanges, stored]

/-- A field of the add-ons section writes the range that it is the variable of. -/
theorem addons_change {field : Document.Field PoolRanges} (member : field ∈ addonsRecord.fields)
    {entry : Value} {change : PoolRanges → PoolRanges}
    (read : field.change.ofValue entry = .ok change) :
    (field.name = publicVariable ∧
        change = fun ranges => { ranges with publicRange := textOf? entry }) ∨
      (field.name = internalVariable ∧
        change = fun ranges => { ranges with internalRange := textOf? entry }) ∨
      (field.name = sharedVariable ∧
        change = fun ranges => { ranges with sharedRange := textOf? entry }) := by
  have textOf?_of_nullable : ∀ {text? : Option String},
      (Reader.nullable .string).ofValue entry = .ok text? → text? = textOf? entry := by
    intro text? text_read
    rcases Reader.nullable_ofValue_cases text_read with ⟨rfl, rfl⟩ | ⟨text, string_read, rfl⟩
    · rfl
    · exact textOf?_of_string string_read
  simp only [addonsRecord, List.mem_cons, List.not_mem_nil, or_false] at member
  rcases member with rfl | rfl | rfl
  all_goals
    rcases Reader.map_ofValue_eq_ok.mp read with ⟨text?, text_read, rfl⟩
    rw [textOf?_of_nullable text_read]
  · exact .inl ⟨rfl, rfl⟩
  · exact .inr (.inl ⟨rfl, rfl⟩)
  · exact .inr (.inr ⟨rfl, rfl⟩)

/-- The ranges that are read are the texts of the three variables. -/
theorem ranges_of_variables {part : Bucket} {ranges : PoolRanges}
    (read : addonsRecord.ofValue (.object part) = .ok ranges) :
    ranges = ⟨((part.get? publicVariable).map textOf?).getD .none,
      ((part.get? internalVariable).map textOf?).getD .none,
      ((part.get? sharedVariable).map textOf?).getD .none⟩ := by
  have publicRange := Record.part_of_readEntries PoolRanges.publicRange publicVariable textOf?
    (by decide) ?_ read
  have internalRange := Record.part_of_readEntries PoolRanges.internalRange internalVariable
    textOf? (by decide) ?_ read
  have sharedRange := Record.part_of_readEntries PoolRanges.sharedRange sharedVariable textOf?
    (by decide) ?_ read
  · rcases ranges with ⟨first, second, third⟩
    exact congr (congr (congrArg PoolRanges.mk publicRange) internalRange) sharedRange
  all_goals
    intro field member entry change entry_read before
    rcases addons_change member entry_read with ⟨named, rfl⟩ | ⟨named, rfl⟩ | ⟨named, rfl⟩
  all_goals
    rw [named]
    rfl

/-- Ranges that were written are read again, whatever other variables there are. -/
theorem poolRanges_setPoolRanges {bucket : Bucket}
    (distinct : ((addonsVariables bucket).map Prod.fst).Nodup) (ranges : PoolRanges) :
    poolRanges (setPoolRanges bucket ranges) = .ok ranges := by
  have still_distinct := nodup_names_setRangeVariables distinct ranges
  rcases get?_setRangeVariables distinct ranges with ⟨publicText, internalText, sharedText⟩
  have reads : ∃ found, addonsRecord.ofValue
      (.object (setRangeVariables (addonsVariables bucket) ranges)) = .ok found := by
    refine Record.readEntries_eq_ok rfl (by decide) still_distinct ?_ (by simp)
    intro name entry member field found
    rcases Record.field?_eq_some found with ⟨field_member, rfl⟩
    have stored := (Entries.get?_eq_some still_distinct).mpr member
    -- What is stored under the name of a field is the text of a range.
    simp only [addonsRecord, List.mem_cons, List.not_mem_nil, or_false] at field_member
    rcases field_member with rfl | rfl | rfl
    · rcases Option.map_eq_some_iff.mp (publicText.symm.trans stored) with ⟨text, -, rfl⟩
      exact ⟨_, rfl⟩
    · rcases Option.map_eq_some_iff.mp (internalText.symm.trans stored) with ⟨text, -, rfl⟩
      exact ⟨_, rfl⟩
    · rcases Option.map_eq_some_iff.mp (sharedText.symm.trans stored) with ⟨text, -, rfl⟩
      exact ⟨_, rfl⟩
  rcases reads with ⟨found, found_read⟩
  have same := ranges_of_variables found_read
  have section_read : poolRanges (setPoolRanges bucket ranges) =
      (addonsRecord.ofValue (.object (setRangeVariables (addonsVariables bucket) ranges))).mapError
        fun cause => .badAnswers addonsKey cause := by
    rw [poolRanges, readSection, setPoolRanges, Entries.get?_insert_self]
  have written : ∀ text? : Option String,
      ((text?.map Value.string).map textOf?).getD .none = text? := by
    intro text?
    cases text? <;> rfl
  rw [section_read, found_read, mapError_ok, same, publicText, internalText, sharedText, written,
    written, written]

end NetworkIsolation.Configuration
