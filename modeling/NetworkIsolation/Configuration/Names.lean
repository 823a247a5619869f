import NetworkIsolation.Configuration.Error
import NetworkIsolation.Configuration.Ranges

/-!
# Names of backend objects

Every name of a pool, an advertisement, a namespace, an annotation or a space
that reconciliation touches comes from one table, so that a deployment can use
its own.  The table is usable when no name is blank and the two roles have
different pools and different advertisements.
-/

namespace NetworkIsolation.Configuration

open NetworkIsolation.Document NetworkIsolation.Json NetworkIsolation.Text

/-- A front-end application whose pool is chosen by an annotation. -/
structure AnnotatedService where
  application : String
  role : PoolRole
  deriving DecidableEq, Repr

namespace AnnotatedService

/-- A service as a record of a document. -/
def record : Record AnnotatedService where
  name := "ServiceAnnotationTarget"
  fields := [
    .need "application" .string fun application service => { service with application },
    .need "role" PoolRole.reader fun role service => { service with role }]
  strict := true
  start := ⟨"", .publicSide⟩

/-- A service as an object. -/
def toValue (service : AnnotatedService) : Json.Value :=
  .object [("application", .string service.application), ("role", .string service.role.word)]

end AnnotatedService

/-- The names that reconciliation uses. -/
structure IsolationNames where
  publicPool : String := "sunbeam-public-pool"
  internalPool : String := "sunbeam-internal-pool"
  publicAdvertisement : String := "sunbeam-public-adv"
  internalAdvertisement : String := "sunbeam-internal-adv"
  resourceNamespace : String := "metallb-system"
  annotationKey : String := "metallb.universe.tf/address-pool"
  annotationConfigKey : String := "kubernetes-service-annotations"
  defaultSpace : String := "management"
  services : List AnnotatedService :=
    [⟨"traefik", .internalSide⟩, ⟨"traefik-public", .publicSide⟩, ⟨"traefik-rgw", .publicSide⟩]
  deriving DecidableEq, Repr, Inhabited

namespace IsolationNames

/-- Names as a record of a document; a name that is absent has its default. -/
def record : Record IsolationNames where
  name := "IsolationNames"
  fields := [
    .allow "public_pool" .string fun name names => { names with publicPool := name },
    .allow "internal_pool" .string fun name names => { names with internalPool := name },
    .allow "public_advertisement" .string
      fun name names => { names with publicAdvertisement := name },
    .allow "internal_advertisement" .string
      fun name names => { names with internalAdvertisement := name },
    .allow "namespace" .string fun name names => { names with resourceNamespace := name },
    .allow "annotation_key" .string fun key names => { names with annotationKey := key },
    .allow "annotation_config_key" .string
      fun key names => { names with annotationConfigKey := key },
    .allow "default_space" .string fun name names => { names with defaultSpace := name },
    .allow "services" (.list AnnotatedService.record.reader)
      fun services names => { names with services }]
  strict := true
  start := {}

/-- The names as an object. -/
def toValue (names : IsolationNames) : Json.Value :=
  .object [
    ("public_pool", .string names.publicPool),
    ("internal_pool", .string names.internalPool),
    ("public_advertisement", .string names.publicAdvertisement),
    ("internal_advertisement", .string names.internalAdvertisement),
    ("namespace", .string names.resourceNamespace),
    ("annotation_key", .string names.annotationKey),
    ("annotation_config_key", .string names.annotationConfigKey),
    ("default_space", .string names.defaultSpace),
    ("services", .array (names.services.map AnnotatedService.toValue))]

/-- The pool of a role. -/
def pool (names : IsolationNames) : PoolRole → String
  | .publicSide => names.publicPool
  | .internalSide => names.internalPool

/-- The advertisement of a role. -/
def advertisement (names : IsolationNames) : PoolRole → String
  | .publicSide => names.publicAdvertisement
  | .internalSide => names.internalAdvertisement

/-- The names that must not be blank, by their fields in a document. -/
def required (names : IsolationNames) : List (String × String) :=
  [("public_pool", names.publicPool),
    ("internal_pool", names.internalPool),
    ("public_advertisement", names.publicAdvertisement),
    ("internal_advertisement", names.internalAdvertisement),
    ("namespace", names.resourceNamespace),
    ("annotation_key", names.annotationKey),
    ("annotation_config_key", names.annotationConfigKey),
    ("default_space", names.defaultSpace)]

/-- Check that the names can be used. -/
def validate (names : IsolationNames) : Except ConfigurationError Unit :=
  match names.required.find? (fun entry => isAllBlank entry.2) with
  | some (field, _) => .error (.emptyName field)
  | none =>
    if names.publicPool = names.internalPool then
      .error (.duplicateName names.publicPool)
    else if names.publicAdvertisement = names.internalAdvertisement then
      .error (.duplicateName names.publicAdvertisement)
    else
      .ok ()

end IsolationNames

end NetworkIsolation.Configuration
