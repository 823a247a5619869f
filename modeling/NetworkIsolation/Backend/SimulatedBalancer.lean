import NetworkIsolation.Backend.LoadBalancer

/-!
# A simulated load balancer

A load balancer in memory.  It keeps resources by kind, namespace and name,
writes down every call, and can be told to refuse some of them.
-/

namespace NetworkIsolation.Backend

/-- An operation that a load balancer was asked for. -/
inductive BalancerCall where
  | connect
  | create (kind : ResourceKind) (name : String)
  | replace (kind : ResourceKind) (name : String)
  deriving DecidableEq, Repr

/-- The key under which a resource is kept: its kind, and its namespace and name in one text. -/
structure ResourceKey where
  kind : ResourceKind
  path : String
  deriving DecidableEq, Repr

/-- The key of a target. -/
def ResourceTarget.key (target : ResourceTarget) : ResourceKey :=
  ⟨target.kind, target.space ++ "/" ++ target.name⟩

/-- The state of a simulated load balancer. -/
structure SimulatedBalancer where
  resources : List (ResourceKey × Resource) := []
  unavailable : Bool := false
  failCreate : Bool := false
  failingReplace : List String := []
  calls : List BalancerCall := []
  deriving Repr, Inhabited

namespace SimulatedBalancer

/-- The resource under a key. -/
def resource? (balancer : SimulatedBalancer) (key : ResourceKey) : Option Resource :=
  (balancer.resources.find? fun entry => entry.1 = key).map Prod.snd

/-- The resources with one put under a key. -/
def putResource (key : ResourceKey) (resource : Resource) :
    List (ResourceKey × Resource) → List (ResourceKey × Resource)
  | [] => [(key, resource)]
  | entry :: rest =>
    if entry.1 = key then (key, resource) :: rest else entry :: putResource key resource rest

/-- Put a resource in place. -/
def put (balancer : SimulatedBalancer) (key : ResourceKey) (resource : Resource) :
    SimulatedBalancer :=
  { balancer with resources := putResource key resource balancer.resources }

/-- Write down a call. -/
def logCall (call : BalancerCall) : StateM SimulatedBalancer Unit :=
  modify fun balancer => { balancer with calls := balancer.calls ++ [call] }

/-- Connect. -/
def connect : StateM SimulatedBalancer (Reply Unit) := do
  logCall .connect
  if (← get).unavailable then
    return .error (.unavailable "load-balancer API")
  else
    return .ok ()

/-- Create a resource, which must not be there. -/
def create (resource : Resource) : StateM SimulatedBalancer (Reply Unit) := do
  logCall (.create resource.kind resource.name)
  let balancer ← get
  if balancer.failCreate then
    return .error (.api ("create " ++ resource.kind.word ++ " " ++ resource.name ++ " rejected"))
  else if (balancer.resource? resource.target.key).isSome then
    return .error (.api (resource.kind.word ++ " \"" ++ resource.name ++ "\" already exists"))
  else
    set (balancer.put resource.target.key resource)
    return .ok ()

/-- Replace the resource of a target, which must be there. -/
def replace (target : ResourceTarget) (resource : Resource) :
    StateM SimulatedBalancer (Reply Unit) := do
  logCall (.replace target.kind target.name)
  let balancer ← get
  if balancer.failingReplace.contains target.name then
    return .error (.api ("replace " ++ target.kind.word ++ " " ++ target.name ++ " rejected"))
  else if (balancer.resource? target.key).isSome then
    set (balancer.put target.key resource)
    return .ok ()
  else
    return .error (.api (target.kind.word ++ " \"" ++ target.name ++ "\" not found"))

/-- The load balancer with its state in memory. -/
def balancer : LoadBalancer SimulatedBalancer Unit where
  connect := connect
  create _ resource := create resource
  replace _ target resource := replace target resource

/-- How often a connection was asked for. -/
def connects (balancer : SimulatedBalancer) : Nat :=
  (balancer.calls.filter (· = .connect)).length

/-- Notes are not part of a simulated load balancer. -/
instance : Journal SimulatedBalancer where
  record _ balancer := balancer

end SimulatedBalancer

end NetworkIsolation.Backend
