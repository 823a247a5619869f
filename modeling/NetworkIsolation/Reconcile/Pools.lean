import NetworkIsolation.Backend.Fabric
import NetworkIsolation.Backend.LoadBalancer
import NetworkIsolation.Configuration.Answers
import NetworkIsolation.Configuration.Names
import NetworkIsolation.Reconcile.Step

/-!
# Reconciling pools

For every range that is resolved there is to be one address pool and one
advertisement of it.  A resource is created, and replaced when it cannot be
created.  Then the front-end applications that are deployed are pointed at
their pools by an annotation.  The first failure ends the step; nothing is
rolled back.

The handle of the load balancer is established at most once and kept.
-/

namespace NetworkIsolation.Reconcile

open NetworkIsolation.Backend NetworkIsolation.Configuration NetworkIsolation.Json
open NetworkIsolation.Text

/-- What the reconciliation of pools works towards. -/
structure PoolReconciler where
  enabled : Bool
  ranges : PoolRanges
  names : IsolationNames
  deriving DecidableEq, Repr, Inhabited

/-- The handle, if there is one, and what became of the pools in the last run. -/
structure PoolProgress (Handle : Type) where
  handle : Option Handle := none
  /-- The resources that were worked on, in order. -/
  outcomes : List (ResourceKind × String × MutationOutcome) := []
  /-- The applications that were annotated, in order. -/
  annotated : List String := []

/-- The assignment that chooses the pool of a role for an application. -/
def annotationAssignment (names : IsolationNames) (role : PoolRole) : String :=
  names.annotationConfigKey ++ "=" ++
    (Value.object [(names.annotationKey, .string (names.pool role))]).compact

namespace PoolReconciler

/-- The reconciliation of the pools of a configuration. -/
def ofConfig (config : IsolationConfig) (names : IsolationNames) : PoolReconciler :=
  ⟨config.enabled, config.poolRanges, names⟩

/-- The range of each pool. -/
def resolvedRanges (reconciler : PoolReconciler) : ResolvedRanges :=
  reconciler.ranges.resolve reconciler.enabled

/-- The address pool of a role. -/
def poolResource (names : IsolationNames) (role : PoolRole) (range : String) : Resource :=
  .addressPool (names.pool role) names.resourceNamespace (addressList range)

/-- The advertisement of a role's pool. -/
def advertisementResource (names : IsolationNames) (role : PoolRole) : Resource :=
  .advertisement (names.advertisement role) names.resourceNamespace (names.pool role)

variable {σ Handle : Type} [Journal σ]

/-- Use the handle that is there, or connect. -/
def connect (balancer : LoadBalancer σ Handle) (handle? : Option Handle) :
    StateM σ (Reply Handle) :=
  match handle? with
  | some handle => return .ok handle
  | none => balancer.connect

/-- Whether there is anything to do, and the handle for it. -/
def isApplicable (reconciler : PoolReconciler) (balancer : LoadBalancer σ Handle)
    (handle? : Option Handle) : StateM σ (Applicability × Option Handle) := do
  if reconciler.resolvedRanges.isEmpty then
    let reason :=
      if reconciler.enabled then "no load-balancer ranges specified"
      else "network isolation disabled"
    return (.skipped reason, handle?)
  else
    match ← connect balancer handle? with
    | .ok handle => return (.ready, some handle)
    | .error error => return (.failed (oneLine error.message), handle?)

/-- Create a resource, or replace it when it cannot be created. -/
def createOrReplace (balancer : LoadBalancer σ Handle) (handle : Handle) (resource : Resource) :
    StateM σ MutationOutcome := do
  match ← balancer.create handle resource with
  | .ok () => return .created
  | .error createError =>
    note .pools .debug ("create " ++ resource.kind.word ++ " " ++ resource.name ++ " rejected (" ++
      createError.message ++ "), replacing")
    match ← balancer.replace handle resource.target resource with
    | .ok () => return .updated
    | .error replaceError =>
      return .failed ("Failed to apply " ++ resource.kind.word ++ " " ++ resource.name ++ ": " ++
        replaceError.message ++ " (create failed: " ++ createError.message ++ ")")

/-- Work on one resource and give its outcome. -/
def applyResource (balancer : LoadBalancer σ Handle) (handle : Handle) (resource : Resource) :
    StateM σ (Option String × List (ResourceKind × String × MutationOutcome)) := do
  let outcome ← createOrReplace balancer handle resource
  let failure :=
    match outcome with
    | .failed reason => some reason
    | _ => none
  return (failure, [(resource.kind, resource.name, outcome)])

/-- Work on the pool and then the advertisement of a role. -/
def applyRole (names : IsolationNames) (balancer : LoadBalancer σ Handle) (handle : Handle)
    (entry : PoolRole × String) :
    StateM σ (Option String × List (ResourceKind × String × MutationOutcome)) := do
  let (role, range) := entry
  let (failure, outcomes) ← untilFailure (applyResource balancer handle)
    [poolResource names role range, advertisementResource names role]
  if failure.isNone then
    note .pools .info (role.word ++ " pool " ++ names.pool role ++ " applied with " ++ range)
  return (failure, outcomes)

/-- Annotate one application, unless it is not deployed. -/
def annotateService (names : IsolationNames) (fabric : Fabric σ) (deployed : List String)
    (service : AnnotatedService) : StateM σ (Option String × List String) := do
  if deployed.contains service.application then
    let assignment := annotationAssignment names service.role
    match ← fabric.setApplicationConfig service.application assignment false with
    | .error error =>
      return (some ("failed to annotate " ++ service.application ++ ": " ++ error.message), [])
    | .ok _ =>
      note .pools .debug (service.application ++ ": " ++ assignment)
      return (none, [service.application])
  else
    note .pools .debug (service.application ++ " not deployed, not annotating")
    return (none, [])

/-- Annotate the deployed applications in table order. -/
def annotateServices (names : IsolationNames) (fabric : Fabric σ) :
    StateM σ (Option String × List String) := do
  match ← fabric.listApplications with
  | .error error => return (some ("unable to list applications: " ++ error.message), [])
  | .ok deployed => untilFailure (annotateService names fabric deployed) names.services

/-- Work on the pools, and on the annotations once all pools are there. -/
def applyWith (reconciler : PoolReconciler) (balancer : LoadBalancer σ Handle)
    (fabric : Fabric σ) (handle : Handle) : StateM σ (Option String × PoolProgress Handle) := do
  let (failure, outcomes) ← untilFailure (applyRole reconciler.names balancer handle)
    reconciler.resolvedRanges.toList
  match failure with
  | some reason => return (some reason, { handle := some handle, outcomes })
  | none =>
    let (failure, annotated) ← annotateServices reconciler.names fabric
    return (failure, { handle := some handle, outcomes, annotated })

/-- Bring the pools of the load balancer and the annotations to the configuration. -/
def apply (reconciler : PoolReconciler) (balancer : LoadBalancer σ Handle) (fabric : Fabric σ)
    (handle? : Option Handle) : StateM σ (StepOutcome × PoolProgress Handle) := do
  if reconciler.resolvedRanges.isEmpty then
    note .pools .debug "no load-balancer ranges resolved, nothing to apply"
    return (.completed, { handle := handle? })
  else
    match ← connect balancer handle? with
    | .error error => return (.failed (oneLine error.message), { handle := handle? })
    | .ok handle =>
      let (failure, progress) ← reconciler.applyWith balancer fabric handle
      match failure with
      | none => return (.completed, progress)
      | some reason =>
        note .pools .debug ("pool reconciliation failed: " ++ reason)
        return (.failed (oneLine reason), progress)

end PoolReconciler

end NetworkIsolation.Reconcile
