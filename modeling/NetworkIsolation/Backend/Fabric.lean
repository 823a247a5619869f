import NetworkIsolation.Backend.Error
import NetworkIsolation.Backend.State

/-!
# The network fabric

What reconciliation needs from the control plane of the network fabric, all
within one model.
-/

namespace NetworkIsolation.Backend

/-- The operations of a fabric on a state. -/
structure Fabric (σ : Type) where
  /-- The model that every operation works on. -/
  scope : String
  listSpaces : StateM σ (Reply (List String))
  addSpace : String → List String → StateM σ (Reply Unit)
  setSpaceSubnets : String → List String → StateM σ (Reply Unit)
  /-- Apply one assignment to the configuration of the model. -/
  setModelConfig : String → StateM σ (Reply Unit)
  listApplications : StateM σ (Reply (List String))
  /-- Apply one assignment to an application's configuration, and ask for output as JSON or not. -/
  setApplicationConfig : String → String → Bool → StateM σ (Reply String)

/-- A fabric whose state is part of a larger one. -/
def Fabric.lift {σ τ : Type} (fabric : Fabric σ) (part : Part σ τ) : Fabric τ where
  scope := fabric.scope
  listSpaces := part.lift fabric.listSpaces
  addSpace name subnets := part.lift (fabric.addSpace name subnets)
  setSpaceSubnets name subnets := part.lift (fabric.setSpaceSubnets name subnets)
  setModelConfig assignment := part.lift (fabric.setModelConfig assignment)
  listApplications := part.lift fabric.listApplications
  setApplicationConfig application assignment jsonOutput :=
    part.lift (fabric.setApplicationConfig application assignment jsonOutput)

/-- An operation that a fabric was asked for. -/
inductive FabricCall where
  | listSpaces
  | addSpace (name : String) (subnets : List String)
  | setSpaceSubnets (name : String) (subnets : List String)
  | setModelConfig (assignment : String)
  | listApplications
  | setApplicationConfig (application assignment : String) (jsonOutput : Bool)
  deriving DecidableEq, Repr

/-- Whether the operation may change anything. -/
def FabricCall.isMutation : FabricCall → Bool
  | .listSpaces => false
  | .listApplications => false
  | _ => true

end NetworkIsolation.Backend
