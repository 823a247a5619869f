import NetworkIsolation.Document.Reader
import NetworkIsolation.Text.Blank

/-!
# Load-balancer ranges

An operator gives up to three ranges: one for the public pool, one for the
internal pool, and a shared one for whichever pool has none of its own.  Each is
a comma-separated list of address ranges.  `resolve` says which pool gets what;
nothing is resolved while isolation is disabled.
-/

namespace NetworkIsolation.Configuration

open NetworkIsolation.Document NetworkIsolation.Json NetworkIsolation.Text

/-- Which front end an address pool serves. -/
inductive PoolRole where
  | publicSide
  | internalSide
  deriving DecidableEq, Repr

namespace PoolRole

/-- The roles in the order in which they are worked on. -/
def all : List PoolRole := [.publicSide, .internalSide]

/-- The word for a role. -/
def word : PoolRole → String
  | .publicSide => "public"
  | .internalSide => "internal"

/-- A role is read by its word. -/
def reader : Reader PoolRole :=
  .oneOf (all.map fun role => (role.word, role))

end PoolRole

/-- The ranges as an operator gave them. -/
structure PoolRanges where
  publicRange : Option String
  internalRange : Option String
  sharedRange : Option String
  deriving DecidableEq, Repr, Inhabited

namespace PoolRanges

/-- No ranges at all. -/
def none : PoolRanges := ⟨.none, .none, .none⟩

/-- Ranges as a record of a document; a range that is `null` or absent is not given. -/
def record : Record PoolRanges where
  name := "PoolRanges"
  fields := [
    .allow "public" (.nullable .string) fun range ranges => { ranges with publicRange := range },
    .allow "internal" (.nullable .string)
      fun range ranges => { ranges with internalRange := range },
    .allow "shared" (.nullable .string) fun range ranges => { ranges with sharedRange := range }]
  strict := false
  start := none

/-- The ranges that are given as an object. -/
def toValue (ranges : PoolRanges) : Json.Value :=
  let entry (name : String) : Option String → List (String × Json.Value)
    | .some range => [(name, .string range)]
    | .none => []
  .object (entry "public" ranges.publicRange ++ entry "internal" ranges.internalRange ++
    entry "shared" ranges.sharedRange)

end PoolRanges

/-- The range that each pool is to hand out. -/
structure ResolvedRanges where
  publicRange : Option String
  internalRange : Option String
  deriving DecidableEq, Repr, Inhabited

namespace ResolvedRanges

/-- No pool gets anything. -/
def none : ResolvedRanges := ⟨.none, .none⟩

/-- The range of a role. -/
def get (ranges : ResolvedRanges) : PoolRole → Option String
  | .publicSide => ranges.publicRange
  | .internalSide => ranges.internalRange

/-- Whether no pool gets anything. -/
def isEmpty (ranges : ResolvedRanges) : Bool :=
  ranges.publicRange.isNone && ranges.internalRange.isNone

/-- The roles that get a range, the public one first. -/
def toList (ranges : ResolvedRanges) : List (PoolRole × String) :=
  PoolRole.all.filterMap fun role => (ranges.get role).map fun range => (role, range)

/-- Both ranges as an object, `null` where there is none. -/
def toValue (ranges : ResolvedRanges) : Json.Value :=
  let value : Option String → Json.Value
    | .some range => .string range
    | .none => .null
  .object [("public", value ranges.publicRange), ("internal", value ranges.internalRange)]

end ResolvedRanges

/-- The trimmed text of a range that is given and not blank. -/
def givenRange (range : Option String) : Option String :=
  range.bind nonBlank

/-- A pool gets its own range, or else the shared one; blank ranges count as absent. -/
def PoolRanges.resolve (ranges : PoolRanges) (enabled : Bool) : ResolvedRanges :=
  if enabled then
    let sharedRange := givenRange ranges.sharedRange
    ⟨(givenRange ranges.publicRange).or sharedRange,
      (givenRange ranges.internalRange).or sharedRange⟩
  else
    .none

/-- The addresses of a range: the trimmed pieces between commas, without the empty ones. -/
def addressList (range : String) : List String :=
  (trimmedPieces ',' range.toList).map String.ofList

end NetworkIsolation.Configuration
