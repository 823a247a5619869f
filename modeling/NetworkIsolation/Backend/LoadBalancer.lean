import NetworkIsolation.Backend.Error
import NetworkIsolation.Backend.State
import NetworkIsolation.Json.Printer

/-!
# The load balancer

A load balancer keeps namespaced resources in declarative form: address pools,
and advertisements that announce a pool.  Before anything can be created or
replaced a connection is needed, which gives a handle.
-/

namespace NetworkIsolation.Backend

open NetworkIsolation.Json

/-- The kinds of resources. -/
inductive ResourceKind where
  | addressPool
  | advertisement
  deriving DecidableEq, Repr

/-- The word for a kind. -/
def ResourceKind.word : ResourceKind → String
  | .addressPool => "IPAddressPool"
  | .advertisement => "L2Advertisement"

/-- The version of the interface that the resources belong to. -/
def apiVersion : String := "metallb.io/v1beta1"

/-- A resource in declarative form. -/
structure Resource where
  kind : ResourceKind
  name : String
  space : String
  spec : Value
  deriving Repr

namespace Resource

/-- A pool that hands out addresses, as they are given. -/
def addressPool (name space : String) (addresses : List String) : Resource :=
  ⟨.addressPool, name, space, .object [("addresses", .strings addresses)]⟩

/-- An advertisement of exactly one pool. -/
def advertisement (name space pool : String) : Resource :=
  ⟨.advertisement, name, space, .object [("ipAddressPools", .strings [pool])]⟩

/-- The manifest of a resource. -/
def manifest (resource : Resource) : Value :=
  .object [
    ("apiVersion", .string apiVersion),
    ("kind", .string resource.kind.word),
    ("metadata", .object [
      ("name", .string resource.name),
      ("namespace", .string resource.space)]),
    ("spec", resource.spec)]

end Resource

/-- Which resource a replacement is for. -/
structure ResourceTarget where
  kind : ResourceKind
  name : String
  space : String
  deriving DecidableEq, Repr

/-- The target that a resource is itself. -/
def Resource.target (resource : Resource) : ResourceTarget :=
  ⟨resource.kind, resource.name, resource.space⟩

/-- The operations of a load balancer on a state, with the type of its handles. -/
structure LoadBalancer (σ Handle : Type) where
  connect : StateM σ (Reply Handle)
  /-- Fails if the resource is there already. -/
  create : Handle → Resource → StateM σ (Reply Unit)
  replace : Handle → ResourceTarget → Resource → StateM σ (Reply Unit)

/-- A load balancer whose state is part of a larger one. -/
def LoadBalancer.lift {σ τ Handle : Type} (balancer : LoadBalancer σ Handle) (part : Part σ τ) :
    LoadBalancer τ Handle where
  connect := part.lift balancer.connect
  create handle resource := part.lift (balancer.create handle resource)
  replace handle target resource := part.lift (balancer.replace handle target resource)

end NetworkIsolation.Backend
