import NetworkIsolation.Backend.Fabric
import NetworkIsolation.Backend.LoadBalancer

/-!
# Traces of backends

A backend whose every operation is written down together with its reply.  The
backend itself may be any; the trace says what was asked of it, in what order,
and what it answered.
-/

namespace NetworkIsolation.Backend

/-- A state and what has happened on it. -/
structure Traced (σ ε : Type) where
  state : σ
  events : List ε

namespace Traced

variable {σ ε α : Type}

/-- Notes go to the state that is traced. -/
instance [Journal σ] : Journal (Traced σ ε) where
  record entry traced := { traced with state := Journal.record entry traced.state }

/-- Run an action on the state and write down what happened. -/
def watch (action : StateM σ α) (event : α → ε) : StateM (Traced σ ε) α := fun traced =>
  let (reply, state) := action traced.state
  (reply, ⟨state, traced.events ++ [event reply]⟩)

end Traced

/-- An operation of a fabric and its reply. -/
inductive FabricEvent where
  | listSpaces (reply : Reply (List String))
  | addSpace (name : String) (subnets : List String) (reply : Reply Unit)
  | setSpaceSubnets (name : String) (subnets : List String) (reply : Reply Unit)
  | setModelConfig (assignment : String) (reply : Reply Unit)
  | listApplications (reply : Reply (List String))
  | setApplicationConfig (application assignment : String) (jsonOutput : Bool)
      (reply : Reply String)

/-- An operation of a load balancer and its reply. -/
inductive BalancerEvent (Handle : Type) where
  | connect (reply : Reply Handle)
  | create (handle : Handle) (resource : Resource) (reply : Reply Unit)
  | replace (handle : Handle) (target : ResourceTarget) (resource : Resource) (reply : Reply Unit)

/-- A fabric whose operations are written down as events. -/
def Fabric.traced {σ ε : Type} (fabric : Fabric σ) (event : FabricEvent → ε) :
    Fabric (Traced σ ε) where
  scope := fabric.scope
  listSpaces := Traced.watch fabric.listSpaces fun reply => event (.listSpaces reply)
  addSpace name subnets :=
    Traced.watch (fabric.addSpace name subnets) fun reply => event (.addSpace name subnets reply)
  setSpaceSubnets name subnets :=
    Traced.watch (fabric.setSpaceSubnets name subnets) fun reply =>
      event (.setSpaceSubnets name subnets reply)
  setModelConfig assignment :=
    Traced.watch (fabric.setModelConfig assignment) fun reply =>
      event (.setModelConfig assignment reply)
  listApplications :=
    Traced.watch fabric.listApplications fun reply => event (.listApplications reply)
  setApplicationConfig application assignment jsonOutput :=
    Traced.watch (fabric.setApplicationConfig application assignment jsonOutput) fun reply =>
      event (.setApplicationConfig application assignment jsonOutput reply)

/-- A load balancer whose operations are written down as events. -/
def LoadBalancer.traced {σ ε Handle : Type} (balancer : LoadBalancer σ Handle)
    (event : BalancerEvent Handle → ε) : LoadBalancer (Traced σ ε) Handle where
  connect := Traced.watch balancer.connect fun reply => event (.connect reply)
  create handle resource :=
    Traced.watch (balancer.create handle resource) fun reply =>
      event (.create handle resource reply)
  replace handle target resource :=
    Traced.watch (balancer.replace handle target resource) fun reply =>
      event (.replace handle target resource reply)

end NetworkIsolation.Backend
