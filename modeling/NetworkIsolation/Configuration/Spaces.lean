import NetworkIsolation.Document.Reader

/-!
# Network spaces

A configuration names spaces and the subnets of each, in document order.  In a
document the spaces are an object from names to specs, and a spec that is
`null`, as well as subnets that are `null` or absent, mean no subnets.
-/

namespace NetworkIsolation.Configuration

open NetworkIsolation.Document NetworkIsolation.Json

/-- A space and the subnets it is to have. -/
structure Space where
  name : String
  subnets : List String
  deriving DecidableEq, Repr, Inhabited

/-- The subnets of one space as a record of a document. -/
def spaceSpec : Record (List String) where
  name := "SpaceSpec"
  fields := [
    .allow "subnets" (.nullable (.list .string)) fun subnets _ => subnets.getD []]
  strict := false
  start := []

/-- Subnets as a spec. -/
def spaceSpecValue (subnets : List String) : Json.Value :=
  .object [("subnets", .strings subnets)]

/-- Spaces in document order. -/
def spacesReader : Reader (List Space) :=
  let entries := Reader.mappingCalled "a mapping of space name to space spec"
    (.nullable spaceSpec.reader)
  (Reader.nullable entries).map fun found =>
    (found.getD []).map fun entry => ⟨entry.1, entry.2.getD []⟩

/-- Spaces as the entries of an object, in their order. -/
def spacesValue (spaces : List Space) : Json.Value :=
  .object (spaces.map fun space => (space.name, spaceSpecValue space.subnets))

end NetworkIsolation.Configuration
