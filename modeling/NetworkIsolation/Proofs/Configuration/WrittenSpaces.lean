import NetworkIsolation.Proofs.Configuration.Grammar
import NetworkIsolation.Proofs.Document.Reading

/-!
# Spaces as they are written

Spaces are written in one form: an object with a spec for each name, and in each spec the
subnets as an array of strings.  Other forms are accepted as well, such as `null` for a
spec, and mean the same spaces.

Reading inverts writing, for spaces in any order and with any strings.  So whatever was
accepted is in its written form after it was read and written once, and stays as it is
from then on.  The values that stay as they are have a shape of their own, `writtenShape`,
which is told without the reader and the writer.
-/

namespace NetworkIsolation.Configuration

open NetworkIsolation.Document NetworkIsolation.Json

/-! ## The written form -/

/-- A spec with its subnets and nothing else. -/
def writtenSpecShape : Shape
  | .object [(name, subnets)] => decide (name = "subnets") && Shape.listOf .text subnets
  | _ => false

/-- Spaces of which each has a spec with its subnets. -/
def writtenShape : Shape :=
  .mappingTo writtenSpecShape

@[simp]
theorem textsOf_strings (texts : List String) : textsOf (.strings texts) = texts := by
  rw [Value.strings, textsOf, List.filterMap_map]
  exact List.filterMap_some

@[simp]
theorem subnetsOf_spaceSpecValue (subnets : List String) :
    subnetsOf (spaceSpecValue subnets) = subnets :=
  textsOf_strings subnets

@[simp]
theorem spacesOf_spacesValue (spaces : List Space) : spacesOf (spacesValue spaces) = spaces := by
  rw [spacesValue, spacesOf, List.map_map]
  refine List.map_id'' ?_ spaces
  intro space
  rw [Function.comp_apply, subnetsOf_spaceSpecValue]

theorem strings_textsOf {value : Value} (written : Shape.listOf .text value = true) :
    .strings (textsOf value) = value := by
  cases value with
  | array items =>
      rw [Shape.listOf, List.all_eq_true] at written
      rw [Value.strings, textsOf, Value.array.injEq]
      induction items with
      | nil => rfl
      | cons item items induction_hypothesis =>
          rw [List.forall_mem_cons] at written
          cases item with
          | string text => simpa [textOf?] using induction_hypothesis written.2
          | _ => cases written.1
  | _ => cases written

theorem spaceSpecValue_subnetsOf {value : Value} (written : writtenSpecShape value = true) :
    spaceSpecValue (subnetsOf value) = value := by
  unfold writtenSpecShape at written
  split at written
  · rename_i name subnets
    rw [Bool.and_eq_true, decide_eq_true_eq] at written
    rcases written with ⟨rfl, texts⟩
    have found : subnetsOf (.object [("subnets", subnets)]) = textsOf subnets := rfl
    rw [found, spaceSpecValue, strings_textsOf texts]
  · cases written

/-- A value of the written form is written again as it is. -/
theorem spacesValue_spacesOf {value : Value} (written : writtenShape value = true) :
    spacesValue (spacesOf value) = value := by
  cases value with
  | object entries =>
      rw [writtenShape, Shape.mappingTo, List.all_eq_true] at written
      have same : entries.map (fun entry => (entry.1, spaceSpecValue (subnetsOf entry.2))) =
          entries.map id := by
        refine List.map_congr_left ?_
        intro entry member
        rw [spaceSpecValue_subnetsOf (written entry member)]
        rfl
      rw [spacesOf, spacesValue, List.map_map, Value.object.injEq]
      exact same.trans (List.map_id entries)
  | _ => cases written

/-- Spaces are written in the written form. -/
theorem writtenShape_spacesValue (spaces : List Space) :
    writtenShape (spacesValue spaces) = true := by
  rw [spacesValue, writtenShape, Shape.mappingTo, List.all_map, List.all_eq_true]
  intro space member
  simp [spaceSpecValue, writtenSpecShape, Value.strings, Shape.listOf, Shape.text]

theorem hasDistinctNames_spaceSpecValue (subnets : List String) :
    (spaceSpecValue subnets).HasDistinctNames :=
  ⟨List.nodup_singleton _, (Value.strings_flat subnets).1, trivial⟩

/-- Spaces of distinct names are written as an object. -/
theorem hasDistinctNames_spacesValue {spaces : List Space}
    (distinct : (spaces.map Space.name).Nodup) : (spacesValue spaces).HasDistinctNames := by
  refine Value.hasDistinctNames_object ?_ ?_
  · rw [List.map_map]
    exact distinct
  · intro entry member
    rcases List.mem_map.mp member with ⟨space, -, rfl⟩
    exact hasDistinctNames_spaceSpecValue space.subnets

/-- The names of the spaces of an object are its names. -/
theorem nodup_names_spacesOf {value : Value} (distinct : value.HasDistinctNames) :
    ((spacesOf value).map Space.name).Nodup := by
  cases value with
  | object entries =>
      rw [spacesOf, List.map_map]
      exact distinct.1
  | _ => exact List.nodup_nil

/-! ## Reading the value -/

theorem ofValue_spaceSpecValue (subnets : List String) :
    spaceSpec.ofValue (spaceSpecValue subnets) = .ok subnets := by
  have shaped : spaceSpecShape (spaceSpecValue subnets) = true := by
    simp [spaceSpecValue, spaceSpecShape, Shape.recordOf, Entries.get?, Value.strings,
      Shape.orNull, Shape.listOf, Shape.text]
  rcases (accepts_spaceSpec _ (hasDistinctNames_spaceSpecValue subnets)).mpr shaped with
    ⟨found, read⟩
  have described : found = subnetsOf (spaceSpecValue subnets) := subnetsOf_of_spec read
  rw [subnetsOf_spaceSpecValue] at described
  subst described
  exact read

/-- Spaces are read from the value that they are written as. -/
theorem ofValue_spacesValue (spaces : List Space) :
    spacesReader.ofValue (spacesValue spaces) = .ok spaces := by
  have spec_read : ∀ space : Space, (Reader.nullable spaceSpec.reader).ofValue
      (spaceSpecValue space.subnets) = .ok (some space.subnets) :=
    fun space => Reader.map_ofValue_eq_ok.mpr ⟨_, ofValue_spaceSpecValue space.subnets, rfl⟩
  have accepted : ∃ found, spacesReader.ofValue (spacesValue spaces) = .ok found := by
    refine (exists_mapM_ok_iff.mpr ?_).elim fun entries mapping_read =>
      ⟨_, Reader.map_ofValue_eq_ok.mpr
        ⟨some entries, Reader.map_ofValue_eq_ok.mpr ⟨entries, mapping_read, rfl⟩, rfl⟩⟩
    intro entry member
    rcases List.mem_map.mp member with ⟨space, -, rfl⟩
    refine ⟨(space.name, some space.subnets), ?_⟩
    rw [spec_read space]
    rfl
  rcases accepted with ⟨found, read⟩
  rw [read, spacesOf_of_reader read, spacesOf_spacesValue]

/-! ## Reading the text -/

theorem strings_readsBack (room : Nat) (texts : List String) :
    (Reader.list .string).ReadsBack (room + 1) (.strings texts) (some texts) := by
  have whole : (texts.map Value.string).mapM textOf? = some texts := by
    rw [List.mapM_map]
    exact (List.mapM_pure (m := Option) (f := id)).trans (congrArg some (List.map_id texts))
  rw [← whole]
  refine Reader.list_readsBack ?_
  intro item member
  rcases List.mem_map.mp member with ⟨text, -, rfl⟩
  exact Reader.string_readsBack room text

theorem spaceSpec_readsBack (room : Nat) (subnets : List String) :
    spaceSpec.reader.ReadsBack (room + 2) (spaceSpecValue subnets) (some subnets) := by
  have begins : ∀ level, ∃ first others,
      (Value.strings subnets).prettyChars level = first :: others ∧ first ≠ 'n' := by
    intro level
    rcases Reader.array_printed level (subnets.map .string) with ⟨others, printed⟩
    exact ⟨'[', others, printed, by decide⟩
  have fields : ∀ name value, (name, value) ∈ [("subnets", Value.strings subnets)] →
      ∃ field, spaceSpec.field? name = some field ∧
        field.change.ReadsBack (room + 1) value (some fun _ => subnets) := by
    intro name value member
    cases List.mem_singleton.mp member
    exact ⟨_, rfl, (Reader.nullable_readsBack (strings_readsBack room subnets) begins).map
      fun subnets _ => subnets.getD []⟩
  exact Record.readsBack fields

/-- Spaces are read from the text that they are printed as, also those that share a name. -/
theorem spaces_readsBack (room : Nat) (spaces : List Space) :
    spacesReader.ReadsBack (room + 3) (spacesValue spaces) (some spaces) := by
  -- Three brackets are open at the deepest place: of the object, of a spec and of its subnets.
  have spec_begins : ∀ subnets level, ∃ first others,
      (spaceSpecValue subnets).prettyChars level = first :: others ∧ first ≠ 'n' :=
    fun subnets level => ⟨'{', _, rfl, by decide⟩
  have begins : ∀ level, ∃ first others,
      (spacesValue spaces).prettyChars level = first :: others ∧ first ≠ 'n' := by
    intro level
    rcases Reader.object_printed level
      (spaces.map fun space => (space.name, spaceSpecValue space.subnets)) with ⟨others, printed⟩
    exact ⟨'{', others, printed, by decide⟩
  let entries : List (String × Value) :=
    spaces.map fun space => (space.name, spaceSpecValue space.subnets)
  let expected (spec : Value) : Option (Option (List String)) := some (some (subnetsOf spec))
  have specs_read : ∀ entry ∈ entries,
      (Reader.nullable spaceSpec.reader).ReadsBack (room + 2) entry.2 (expected entry.2) := by
    intro entry member
    rcases List.mem_map.mp member with ⟨space, -, rfl⟩
    simp only [expected, subnetsOf_spaceSpecValue]
    exact Reader.nullable_readsBack (spaceSpec_readsBack room space.subnets)
      (spec_begins space.subnets)
  have collected : (entries.mapM fun entry =>
      (expected entry.2).map fun found => (entry.1, found)) =
      some (spaces.map fun space => (space.name, some space.subnets)) := by
    simp only [entries, expected, List.mapM_map, Function.comp_def, Option.map_some,
      subnetsOf_spaceSpecValue]
    exact List.mapM_pure
  have entries_read := Reader.mapping_readsBack "a mapping of space name to space spec" specs_read
  rw [collected] at entries_read
  have reads := (Reader.nullable_readsBack entries_read begins).map fun found =>
    (found.getD []).map fun entry => (⟨entry.1, entry.2.getD []⟩ : Space)
  simp only [Option.map_some, Option.getD_some, List.map_map, Function.comp_def] at reads
  rw [List.map_id'' (fun space => rfl)] at reads
  exact reads

/-! ## Reading and writing -/

/-- What becomes of a value that was read as spaces, when they are written and read again. -/
structure SettlesAs (value : Value) (spaces : List Space) : Prop where
  /-- The order is that of the names, and what is `null` or absent means no subnets. -/
  described : spaces = spacesOf value
  distinct : value.HasDistinctNames → (spaces.map Space.name).Nodup
  written : writtenShape (spacesValue spaces) = true
  kept : writtenShape value = true → spacesValue spaces = value
  read_again : spacesReader.ofValue (spacesValue spaces) = .ok spaces
  written_again :
    (spacesReader.ofValue (spacesValue spaces)).map spacesValue = .ok (spacesValue spaces)

/--
Spaces are read back from the object and from the text that they are written as.  What is
written of an accepted value means the same and does not change any more.
-/
theorem spaces_settle :
    (∀ spaces : List Space, (spaces.map Space.name).Nodup →
      (spacesValue spaces).HasDistinctNames ∧
      spacesReader.ofValue (spacesValue spaces) = .ok spaces) ∧
    (∀ spaces : List Space, spacesReader.decode (spacesValue spaces).pretty = .ok spaces) ∧
    ∀ value spaces, spacesReader.ofValue value = .ok spaces → SettlesAs value spaces := by
  refine ⟨?_, ?_, ?_⟩
  · intro spaces distinct
    exact ⟨hasDistinctNames_spacesValue distinct, ofValue_spacesValue spaces⟩
  · intro spaces
    exact toOption_eq_some.mp (spaces_readsBack 124 spaces).decode
  · intro value spaces read
    have described := spacesOf_of_reader read
    constructor
    · exact described
    · intro distinct
      rw [described]
      exact nodup_names_spacesOf distinct
    · exact writtenShape_spacesValue spaces
    · intro written
      rw [described]
      exact spacesValue_spacesOf written
    · exact ofValue_spacesValue spaces
    · rw [ofValue_spacesValue]
      rfl

/-- Spaces without a spec, without subnets, and with a spec that is an array. -/
def looseSpaces : Value := .object [
  ("storage", .null),
  ("edge", .object [("mtu", .nat 9000), ("subnets", .null)]),
  ("pods", .array [.strings ["10.0.2.0/24", "10.0.3.0/24"]])]

/-- The same spaces. -/
def settledSpaces : List Space :=
  [⟨"storage", []⟩, ⟨"edge", []⟩, ⟨"pods", ["10.0.2.0/24", "10.0.3.0/24"]⟩]

theorem looseSpaces_settle :
    (settledSpaces.map Space.name).Nodup ∧
    spacesReader.ofValue (spacesValue settledSpaces) = .ok settledSpaces ∧
    spacesReader.ofValue looseSpaces = .ok settledSpaces ∧
    SettlesAs looseSpaces settledSpaces := by
  have distinct : (settledSpaces.map Space.name).Nodup := by decide
  have read : spacesReader.ofValue looseSpaces = .ok settledSpaces := by rfl
  rcases spaces_settle with ⟨reads, -, settles⟩
  exact ⟨distinct, (reads settledSpaces distinct).2, read, settles looseSpaces settledSpaces read⟩

end NetworkIsolation.Configuration
