import NetworkIsolation.Backend.Fabric
import NetworkIsolation.Entries
import NetworkIsolation.Text.Sorted

/-!
# A simulated fabric

A fabric in memory with a live set of spaces and a list of applications.  It
writes down every call, and it can be told to refuse some of them.
-/

namespace NetworkIsolation.Backend

open NetworkIsolation.Text

/-- The error of a command that was refused with the given output. -/
def refused (command output : String) : BackendError :=
  .commandFailed command (some 1) output

/-- The state of a simulated fabric. -/
structure SimulatedFabric where
  model : String := "openstack"
  spaces : Entries (List String) := []
  applications : List String := []
  failingAdds : List String := []
  failingApplicationConfig : List String := []
  rejectUpdates : Bool := false
  failListSpaces : Bool := false
  failModelConfig : Bool := false
  failListApplications : Bool := false
  calls : List FabricCall := []
  deriving Repr, Inhabited

namespace SimulatedFabric

/-- Write down a call. -/
def logCall (call : FabricCall) : StateM SimulatedFabric Unit :=
  modify fun fabric => { fabric with calls := fabric.calls ++ [call] }

/-- List the spaces. -/
def listSpaces : StateM SimulatedFabric (Reply (List String)) := do
  logCall .listSpaces
  let fabric ← get
  if fabric.failListSpaces then
    return .error (refused "juju spaces" "ERROR cannot connect to controller")
  else
    return .ok (sorted fabric.spaces.names)

/-- Add a space, which must not be there. -/
def addSpace (name : String) (subnets : List String) : StateM SimulatedFabric (Reply Unit) := do
  logCall (.addSpace name subnets)
  let fabric ← get
  if fabric.failingAdds.contains name then
    return .error (refused ("juju add-space " ++ name) "ERROR subnet already in use")
  else if fabric.spaces.has name then
    return .error (refused ("juju add-space " ++ name)
      ("ERROR space \"" ++ name ++ "\" already exists"))
  else
    set { fabric with spaces := fabric.spaces.insert name subnets }
    return .ok ()

/-- Change the subnets of a space, which must be there. -/
def setSpaceSubnets (name : String) (subnets : List String) :
    StateM SimulatedFabric (Reply Unit) := do
  logCall (.setSpaceSubnets name subnets)
  let fabric ← get
  if fabric.rejectUpdates then
    return .error (refused ("juju set-space-subnets " ++ name)
      "ERROR unrecognized command: juju set-space-subnets")
  else if fabric.spaces.has name then
    set { fabric with spaces := fabric.spaces.insert name subnets }
    return .ok ()
  else
    return .error (refused ("juju set-space-subnets " ++ name)
      ("ERROR space \"" ++ name ++ "\" not found"))

/-- Set a configuration of the model. -/
def setModelConfig (assignment : String) : StateM SimulatedFabric (Reply Unit) := do
  logCall (.setModelConfig assignment)
  if (← get).failModelConfig then
    return .error (refused "juju model-config" "ERROR permission denied")
  else
    return .ok ()

/-- List the applications. -/
def listApplications : StateM SimulatedFabric (Reply (List String)) := do
  logCall .listApplications
  let fabric ← get
  if fabric.failListApplications then
    return .error (refused "juju status" "ERROR cannot connect to controller")
  else
    return .ok (sorted fabric.applications)

/-- Set a configuration of an application, which must be there. -/
def setApplicationConfig (application assignment : String) (jsonOutput : Bool) :
    StateM SimulatedFabric (Reply String) := do
  logCall (.setApplicationConfig application assignment jsonOutput)
  let fabric ← get
  if fabric.failingApplicationConfig.contains application ||
      !fabric.applications.contains application then
    return .error (refused ("juju config " ++ application)
      ("ERROR application \"" ++ application ++ "\" not found"))
  else
    return .ok ""

/-- The fabric of a model, with its state in memory. -/
def fabric (model : String) : Fabric SimulatedFabric where
  scope := model
  listSpaces := listSpaces
  addSpace := addSpace
  setSpaceSubnets := setSpaceSubnets
  setModelConfig := setModelConfig
  listApplications := listApplications
  setApplicationConfig := setApplicationConfig

/-- The calls that may have changed something. -/
def mutations (fabric : SimulatedFabric) : List FabricCall :=
  fabric.calls.filter FabricCall.isMutation

/-- Notes are not part of a simulated fabric. -/
instance : Journal SimulatedFabric where
  record _ fabric := fabric

end SimulatedFabric

end NetworkIsolation.Backend
