import NetworkIsolation.Backend.Fabric
import NetworkIsolation.Configuration.Answers
import NetworkIsolation.Reconcile.Step
import NetworkIsolation.Text.Quoted

/-!
# Reconciling spaces

The spaces of the fabric are brought to the configured subnets.  A space that
is absent is added, and a failure to add it ends the step.  A space that is
there gets its subnets set, which a fabric may refuse.  At the end the default
space of the model is set, which may fail without consequence.  A configured
space without subnets is left alone.
-/

namespace NetworkIsolation.Reconcile

open NetworkIsolation.Backend NetworkIsolation.Configuration NetworkIsolation.Text

/-- What the reconciliation of spaces works towards. -/
structure SpaceReconciler where
  enabled : Bool
  spaces : List Space
  defaultSpace : String
  deriving DecidableEq, Repr, Inhabited

/-- What became of the spaces in the last run. -/
structure SpaceProgress where
  /-- The outcome of each space that was worked on, in configuration order. -/
  outcomes : List (String × MutationOutcome) := []
  defaultSpace : Option MutationOutcome := none
  deriving DecidableEq, Repr, Inhabited

namespace SpaceReconciler

/-- The reconciliation of the spaces of a configuration. -/
def ofConfig (config : IsolationConfig) (defaultSpace : String) : SpaceReconciler :=
  ⟨config.enabled, config.spaces, defaultSpace⟩

/-- Whether there is anything to do. -/
def isApplicable (reconciler : SpaceReconciler) : Applicability :=
  if !reconciler.enabled then .skipped "network isolation disabled"
  else if reconciler.spaces.isEmpty then .skipped "no spaces specified"
  else .ready

variable {σ : Type} [Journal σ]

/-- Add a space or set its subnets, depending on the spaces that were listed. -/
def ensureSpace (fabric : Fabric σ) (live : List String) (space : Space) :
    StateM σ MutationOutcome := do
  if live.contains space.name then
    match ← fabric.setSpaceSubnets space.name space.subnets with
    | .ok () =>
      note .spaces .debug
        ("space " ++ space.name ++ ": subnets set to " ++ quotedList space.subnets)
      return .updated
    | .error error =>
      note .spaces .warn
        ("space " ++ space.name ++ ": subnet update not applied: " ++ error.message)
      return .updateUnsupported (oneLine error.message)
  else
    match ← fabric.addSpace space.name space.subnets with
    | .ok () =>
      note .spaces .info ("space " ++ space.name ++ ": created with " ++ quotedList space.subnets)
      return .created
    | .error error => return .failed (oneLine error.message)

/-- Work on one space and give its outcome, unless it has no subnets or adding it fails. -/
def applySpace (fabric : Fabric σ) (live : List String) (space : Space) :
    StateM σ (Option String × List (String × MutationOutcome)) := do
  if space.subnets.isEmpty then
    note .spaces .debug ("space " ++ space.name ++ ": no subnets configured, skipping")
    return (none, [])
  else
    match ← ensureSpace fabric live space with
    | .failed reason =>
      return (some ("failed to ensure space " ++ space.name ++ ": " ++ reason), [])
    | outcome => return (none, [(space.name, outcome)])

/-- Set the default space of the model. -/
def setDefaultSpace (reconciler : SpaceReconciler) (fabric : Fabric σ) :
    StateM σ MutationOutcome := do
  match ← fabric.setModelConfig ("default-space=" ++ reconciler.defaultSpace) with
  | .ok () => return .updated
  | .error error =>
    note .spaces .warn
      ("could not set default space on model " ++ fabric.scope ++ ": " ++ error.message)
    return .failed (oneLine error.message)

/-- Bring the spaces of the fabric to the configured subnets. -/
def apply (reconciler : SpaceReconciler) (fabric : Fabric σ) :
    StateM σ (StepOutcome × SpaceProgress) := do
  match ← fabric.listSpaces with
  | .error error =>
    return (.failed (oneLine ("unable to read model spaces: " ++ error.message)), {})
  | .ok live =>
    note .spaces .debug ("model " ++ fabric.scope ++ " has spaces " ++ quotedSet live)
    let (failure, outcomes) ← untilFailure (applySpace fabric live) reconciler.spaces
    match failure with
    | some reason => return (.failed reason, { outcomes })
    | none =>
      let defaultSpace ← reconciler.setDefaultSpace fabric
      return (.completed, { outcomes, defaultSpace := some defaultSpace })

end SpaceReconciler

end NetworkIsolation.Reconcile
