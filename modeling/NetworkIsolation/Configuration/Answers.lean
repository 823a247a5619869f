import NetworkIsolation.Configuration.Error
import NetworkIsolation.Configuration.Ranges
import NetworkIsolation.Configuration.Spaces

/-!
# The configuration in the answers

Operators' answers are kept in two free-form buckets.  The isolation bucket has
a section with the enable flag and the spaces, the add-ons bucket a section with
variables, three of which are the load-balancer ranges.  A section that is
absent or `null` means that nothing was answered.

`ofAnswers` reads the configuration, `setPoolRanges` changes the ranges and
leaves every other variable alone, and `parseImport` accepts an isolation
document that was made elsewhere.
-/

namespace NetworkIsolation.Configuration

open NetworkIsolation.Document NetworkIsolation.Json

/-- The key of the isolation bucket. -/
def isolationKey : String := "network_isolation"

/-- The section of the isolation bucket. -/
def isolationSectionName : String := "network_isolation"

/-- The key of the add-ons bucket. -/
def addonsKey : String := "TerraformVarsK8SAddons"

/-- The section of the add-ons bucket. -/
def addonsSectionName : String := "k8s-addons"

/-- The variable with the range of the public pool. -/
def publicVariable : String := "lb_public_pool"

/-- The variable with the range of the internal pool. -/
def internalVariable : String := "lb_internal_pool"

/-- The variable with the shared range. -/
def sharedVariable : String := "loadbalancer"

/-- The isolation section: whether isolation is wanted, and the spaces. -/
structure IsolationSection where
  enabled : Bool
  spaces : List Space
  deriving DecidableEq, Repr, Inhabited

namespace IsolationSection

/-- A section as a record of a document. -/
def record : Record IsolationSection where
  name := "IsolationSection"
  fields := [
    .allow "enable_isolation" (.nullable .bool)
      fun flag part => { part with enabled := flag.getD false },
    .allow "spaces" spacesReader fun spaces part => { part with spaces }]
  strict := false
  start := ⟨false, []⟩

end IsolationSection

/-- The add-ons section, of which only the ranges are read. -/
def addonsRecord : Record PoolRanges where
  name := "AddonsSection"
  fields := [
    .allow publicVariable (.nullable .string)
      fun range ranges => { ranges with publicRange := range },
    .allow internalVariable (.nullable .string)
      fun range ranges => { ranges with internalRange := range },
    .allow sharedVariable (.nullable .string)
      fun range ranges => { ranges with sharedRange := range }]
  strict := false
  start := .none

/-- Read a section of a bucket; an absent or `null` section has no entries. -/
def readSection {α : Type} (record : Record α) (key name : String) (bucket : Bucket) :
    Except ConfigurationError α :=
  match bucket.get? name with
  | none => .ok record.start
  | some .null => .ok record.start
  | some value => (record.ofValue value).mapError fun cause => .badAnswers key cause

/-- Read the isolation section of the isolation bucket. -/
def isolationSection (bucket : Bucket) : Except ConfigurationError IsolationSection :=
  readSection IsolationSection.record isolationKey isolationSectionName bucket

/-- Read the load-balancer ranges from the add-ons bucket. -/
def poolRanges (bucket : Bucket) : Except ConfigurationError PoolRanges :=
  readSection addonsRecord addonsKey addonsSectionName bucket

/-- Write a variable, or remove it when there is no value for it. -/
def setVariable (part : Bucket) (name : String) : Option String → Bucket
  | some text => part.insert name (.string text)
  | none => part.swapErase name

/-- Write the three ranges into the variables of the add-ons section. -/
def setRangeVariables (part : Bucket) (ranges : PoolRanges) : Bucket :=
  let part := setVariable part publicVariable ranges.publicRange
  let part := setVariable part internalVariable ranges.internalRange
  setVariable part sharedVariable ranges.sharedRange

/-- The variables of the add-ons section; a section that is no object has none. -/
def addonsVariables (bucket : Bucket) : Bucket :=
  match bucket.get? addonsSectionName with
  | some (.object part) => part
  | _ => []

/-- Write the ranges into an add-ons bucket and keep everything else. -/
def setPoolRanges (bucket : Bucket) (ranges : PoolRanges) : Bucket :=
  bucket.insert addonsSectionName (.object (setRangeVariables (addonsVariables bucket) ranges))

/-- The configuration that reconciliation works towards. -/
structure IsolationConfig where
  enabled : Bool
  spaces : List Space
  poolRanges : PoolRanges
  deriving DecidableEq, Repr, Inhabited

namespace IsolationConfig

/-- Read the configuration from the two buckets. -/
def ofAnswers (isolation addons : Bucket) : Except ConfigurationError IsolationConfig := do
  let part ← isolationSection isolation
  let ranges ← Configuration.poolRanges addons
  return ⟨part.enabled, part.spaces, ranges⟩

/-- The ranges that the pools are to hand out. -/
def resolvedRanges (config : IsolationConfig) : ResolvedRanges :=
  config.poolRanges.resolve config.enabled

/-- The configuration as an object. -/
def toValue (config : IsolationConfig) : Json.Value :=
  .object [
    ("enabled", .bool config.enabled),
    ("spaces", spacesValue config.spaces),
    ("pool_ranges", config.poolRanges.toValue)]

end IsolationConfig

/-! ## Documents made elsewhere -/

/-- Accept an object whose flag and spaces have the expected shape, as it stands. -/
def parseImport (text : String) : Except ConfigurationError Bucket := do
  let value ← (Json.Value.parse text).mapError .badJson
  match value with
  | .object document =>
    let _ ← (IsolationSection.record.ofValue (.object document)).mapError
      fun cause => .badImport (.wrongShape cause)
    return document
  | _ => throw (.badImport .notAnObject)

/-- Whether a document asks for isolation. -/
def importEnabled (document : Bucket) : Bool :=
  ((document.get? "enable_isolation").bind Json.Value.bool?).getD false

/-- The isolation bucket that holds a document. -/
def isolationBucket (document : Bucket) : Bucket :=
  [(isolationSectionName, .object document)]

end NetworkIsolation.Configuration
