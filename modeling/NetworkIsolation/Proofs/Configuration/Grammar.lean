import NetworkIsolation.Proofs.Configuration.Answers
import NetworkIsolation.Proofs.Document.Grammar

/-!
# Which answers are a configuration

The two sections of the answers have shapes, which say which values are accepted.  In both
sections, and in the spec of a space, every field may be absent or `null`, and the fields
may also be given in their order as an array.

A configuration is read from two buckets exactly if each has its section in its shape or
has none.  What is read is then told by looking up the fields of the two sections; nothing
else in the buckets is looked at.
-/

namespace NetworkIsolation.Configuration

open NetworkIsolation.Document NetworkIsolation.Json

/-! ## The shapes -/

/-- The spec of a space. -/
def spaceSpecShape : Shape :=
  .recordOf [("subnets", .orNull (.listOf .text))]

/-- The spaces, of which each may be `null`, and which may be `null` altogether. -/
def spacesShape : Shape :=
  .orNull (.mappingTo (.orNull spaceSpecShape))

/-- The section of the isolation bucket. -/
def isolationShape : Shape :=
  .recordOf [("enable_isolation", .orNull .flag), ("spaces", spacesShape)]

/-- The section of the add-ons bucket. -/
def addonsShape : Shape :=
  .recordOf [(publicVariable, .orNull .text), (internalVariable, .orNull .text),
    (sharedVariable, .orNull .text)]

theorem accepts_spaceSpec : Accepts spaceSpec.reader spaceSpecShape :=
  Record.accepts rfl (by decide) (by decide)
    (.cons ⟨rfl, accepts_string.list.nullable.map _⟩ .nil)

theorem accepts_spaces : Accepts spacesReader spacesShape :=
  (accepts_spaceSpec.nullable.mapping _).nullable.map _

theorem accepts_isolation : Accepts IsolationSection.record.reader isolationShape :=
  Record.accepts rfl (by decide) (by decide)
    (.cons ⟨rfl, accepts_bool.nullable.map _⟩ (.cons ⟨rfl, accepts_spaces.map _⟩ .nil))

theorem accepts_addons : Accepts addonsRecord.reader addonsShape := by
  have text : Accepts (Reader.nullable .string) (.orNull .text) := accepts_string.nullable
  exact Record.accepts rfl (by decide) (by decide)
    (.cons ⟨rfl, text.map _⟩ (.cons ⟨rfl, text.map _⟩ (.cons ⟨rfl, text.map _⟩ .nil)))

/-! ## Sections -/

section

variable {α β : Type} {record : Record α} {shape : Shape} {key name : String} {bucket : Bucket}

/-- A section is read exactly if it is absent or `null`, or has the shape of its record. -/
theorem exists_readSection_iff (accepts : Accepts record.reader shape)
    (distinct : (Value.object bucket).HasDistinctNames) :
    (∃ part, readSection record key name bucket = .ok part) ↔
      (bucket.get? name).all (Shape.orNull shape) = true := by
  cases found : bucket.get? name with
  | none => simp [readSection, found]
  | some value =>
      have member := (Entries.get?_eq_some distinct.1).mp found
      have otherwise : (∃ part, (record.ofValue value).mapError
          (fun cause => ConfigurationError.badAnswers key cause) = .ok part) ↔
          shape value = true := by
        rw [← accepts value (distinct.entry member)]
        exact exists_congr fun part => mapError_eq_ok
      simp only [readSection, found, Option.all_some]
      cases value with
      | null => exact ⟨fun _ => rfl, fun _ => ⟨record.start, rfl⟩⟩
      | bool flag => exact otherwise
      | number number => exact otherwise
      | string text => exact otherwise
      | array items => exact otherwise
      | object entries => exact otherwise

/-- The part of a section that one field decides is what is given for that field. -/
theorem part_of_readSection (part : α → β) (wanted : String) (read : Value → β)
    (names : record.fieldNames.Nodup) (known : wanted ∈ record.fieldNames)
    (changes : ∀ field ∈ record.fields, ∀ entry change,
      field.change.ofValue entry = .ok change →
      ∀ value, part (change value) = if field.name = wanted then read entry else part value)
    {final : α} (done : readSection record key name bucket = .ok final) :
    part final = (((bucket.get? name).bind (givenFor record.fieldNames wanted)).map read).getD
      (part record.start) := by
  cases found : bucket.get? name with
  | none =>
      simp only [readSection, found] at done
      cases done
      rfl
  | some value =>
      cases value with
      | null =>
          simp only [readSection, found] at done
          cases done
          rfl
      | _ =>
          simp only [readSection, found] at done
          exact Record.part_of_ofValue part wanted read names known changes
            (mapError_eq_ok.mp done)

end

/-! ## The configuration -/

/-- The fields of the isolation section, in their order. -/
def isolationFields : List String := ["enable_isolation", "spaces"]

/-- The fields of the add-ons section, in their order. -/
def addonsFields : List String := [publicVariable, internalVariable, sharedVariable]

/-- What the sections of the two buckets say, as far as they are there. -/
def describedBy (isolation? addons? : Option Value) : IsolationConfig where
  enabled := ((isolation?.bind (givenFor isolationFields "enable_isolation")).bind
    Value.bool?).getD false
  spaces := ((isolation?.bind (givenFor isolationFields "spaces")).map spacesOf).getD []
  poolRanges := {
    publicRange := (addons?.bind (givenFor addonsFields publicVariable)).bind textOf?
    internalRange := (addons?.bind (givenFor addonsFields internalVariable)).bind textOf?
    sharedRange := (addons?.bind (givenFor addonsFields sharedVariable)).bind textOf? }

theorem isolationSection_eq_described {bucket : Bucket} {part : IsolationSection}
    (read : isolationSection bucket = .ok part) (addons? : Option Value) :
    let described := describedBy (bucket.get? isolationSectionName) addons?
    part.enabled = described.enabled ∧ part.spaces = described.spaces := by
  intro described
  have enabled := part_of_readSection IsolationSection.enabled "enable_isolation"
    (fun value => value.bool?.getD false) (by decide) (by decide)
    (fun _ member _ _ entry_read => enabled_of_change member entry_read) read
  have spaces := part_of_readSection IsolationSection.spaces "spaces" spacesOf (by decide)
    (by decide) (fun _ member _ _ entry_read => spaces_of_change member entry_read) read
  have flag : ∀ found? : Option Value,
      (found?.map fun value => value.bool?.getD false).getD false =
        (found?.bind Value.bool?).getD false := by
    intro found?
    cases found? <;> rfl
  exact ⟨enabled.trans (flag _), spaces⟩

theorem poolRanges_eq_described {bucket : Bucket} {ranges : PoolRanges}
    (read : poolRanges bucket = .ok ranges) (isolation? : Option Value) :
    ranges = (describedBy isolation? (bucket.get? addonsSectionName)).poolRanges := by
  -- A variable that is not given leaves its range as it was, which is none.
  have given : ∀ (found? : Option Value) (range : Option String),
      range = (found?.map textOf?).getD none → range = found?.bind textOf? := by
    rintro found? range rfl
    cases found? <;> rfl
  have publicRange := part_of_readSection PoolRanges.publicRange publicVariable textOf?
    (by decide) (by decide) ?_ read
  have internalRange := part_of_readSection PoolRanges.internalRange internalVariable textOf?
    (by decide) (by decide) ?_ read
  have sharedRange := part_of_readSection PoolRanges.sharedRange sharedVariable textOf?
    (by decide) (by decide) ?_ read
  · rcases ranges with ⟨first, second, third⟩
    exact congr (congr (congrArg PoolRanges.mk (given _ _ publicRange))
      (given _ _ internalRange)) (given _ _ sharedRange)
  all_goals
    intro field member entry change entry_read before
    rcases addons_change member entry_read with ⟨named, rfl⟩ | ⟨named, rfl⟩ | ⟨named, rfl⟩
  all_goals
    rw [named]
    rfl

theorem ofAnswers_eq_ok_iff {isolation addons : Bucket} {config : IsolationConfig} :
    IsolationConfig.ofAnswers isolation addons = .ok config ↔
      ∃ part ranges, isolationSection isolation = .ok part ∧ poolRanges addons = .ok ranges ∧
        (⟨part.enabled, part.spaces, ranges⟩ : IsolationConfig) = config := by
  constructor
  · intro read
    rcases bind_eq_ok.mp read with ⟨part, part_read, rest⟩
    rcases bind_eq_ok.mp rest with ⟨ranges, ranges_read, same⟩
    cases same
    exact ⟨part, ranges, part_read, ranges_read, rfl⟩
  · rintro ⟨part, ranges, part_read, ranges_read, rfl⟩
    rw [IsolationConfig.ofAnswers, part_read, ok_bind, ranges_read, ok_bind]
    rfl

/-- Of a bucket nothing but its section is looked at. -/
theorem readSection_congr {α : Type} (record : Record α) (key name : String)
    {bucket other : Bucket} (same : other.get? name = bucket.get? name) :
    readSection record key name other = readSection record key name bucket := by
  rw [readSection, readSection, same]

/--
A configuration is read from two buckets exactly if the section of each is absent, `null`
or of its shape.  It is then the one that the fields of the sections describe, and buckets
with the same two sections give the same, whatever else is in them.
-/
theorem ofAnswers_accepts_shapes {isolation addons : Bucket}
    (isolation_distinct : (Value.object isolation).HasDistinctNames)
    (addons_distinct : (Value.object addons).HasDistinctNames) :
    ((∃ config, IsolationConfig.ofAnswers isolation addons = .ok config) ↔
      (isolation.get? isolationSectionName).all (Shape.orNull isolationShape) = true ∧
        (addons.get? addonsSectionName).all (Shape.orNull addonsShape) = true) ∧
    (∀ config, IsolationConfig.ofAnswers isolation addons = .ok config →
      config = describedBy (isolation.get? isolationSectionName)
        (addons.get? addonsSectionName)) ∧
    ∀ others more : Bucket,
      others.get? isolationSectionName = isolation.get? isolationSectionName →
      more.get? addonsSectionName = addons.get? addonsSectionName →
      IsolationConfig.ofAnswers others more = IsolationConfig.ofAnswers isolation addons := by
  refine ⟨?_, ?_, ?_⟩
  · rw [← exists_readSection_iff accepts_isolation isolation_distinct,
      ← exists_readSection_iff accepts_addons addons_distinct]
    constructor
    · rintro ⟨config, read⟩
      rcases ofAnswers_eq_ok_iff.mp read with ⟨part, ranges, part_read, ranges_read, -⟩
      exact ⟨⟨part, part_read⟩, ranges, ranges_read⟩
    · rintro ⟨⟨part, part_read⟩, ranges, ranges_read⟩
      exact ⟨_, ofAnswers_eq_ok_iff.mpr ⟨part, ranges, part_read, ranges_read, rfl⟩⟩
  · intro config read
    rcases ofAnswers_eq_ok_iff.mp read with ⟨part, ranges, part_read, ranges_read, rfl⟩
    rcases isolationSection_eq_described part_read (addons.get? addonsSectionName) with
      ⟨enabled, spaces⟩
    rw [enabled, spaces, poolRanges_eq_described ranges_read
      (isolation.get? isolationSectionName)]
  · intro others more same_isolation same_addons
    rw [IsolationConfig.ofAnswers, IsolationConfig.ofAnswers, isolationSection, isolationSection,
      poolRanges, poolRanges, readSection_congr _ _ _ same_isolation,
      readSection_congr _ _ _ same_addons]

/-- An isolation bucket whose section is an array, with a space that has none of its own spec. -/
def positionalAnswers : Bucket := [
  ("mtu", .nat 9000),
  (isolationSectionName, .array [.bool true, .object [
    ("storage", .array [.array [.string "10.0.2.0/24"]]),
    ("internal", .null)]])]

/-- An add-ons bucket with one range, one `null`, and a variable that is no range. -/
def sharedAnswers : Bucket := [
  (addonsSectionName, .object [
    ("metallb", .bool true),
    (sharedVariable, .string "10.20.0.10-10.20.0.50"),
    (publicVariable, .null)])]

theorem ofAnswers_accepts_positionalAnswers :
    (Value.object positionalAnswers).HasDistinctNames ∧
    (Value.object sharedAnswers).HasDistinctNames ∧
    ∃ config, IsolationConfig.ofAnswers positionalAnswers sharedAnswers = .ok config ∧
      config = ⟨true, [⟨"storage", ["10.0.2.0/24"]⟩, ⟨"internal", []⟩],
        ⟨none, none, some "10.20.0.10-10.20.0.50"⟩⟩ := by
  have isolation_distinct : (Value.object positionalAnswers).HasDistinctNames := by
    simp [positionalAnswers, isolationSectionName, Value.nat, Value.HasDistinctNames,
      Value.EntriesHaveDistinctNames, Value.ItemsHaveDistinctNames]
  have addons_distinct : (Value.object sharedAnswers).HasDistinctNames := by
    simp [sharedAnswers, sharedVariable, publicVariable, Value.HasDistinctNames,
      Value.EntriesHaveDistinctNames]
  refine ⟨isolation_distinct, addons_distinct, ?_⟩
  rcases ofAnswers_accepts_shapes isolation_distinct addons_distinct with
    ⟨accepted_iff, described, -⟩
  rcases accepted_iff.mpr ⟨by decide, by decide⟩ with ⟨config, read⟩
  exact ⟨config, read, described config read⟩

end NetworkIsolation.Configuration
