import NetworkIsolation.Backend.Juju
import NetworkIsolation.Backend.Kubectl
import NetworkIsolation.Configuration.Settings
import NetworkIsolation.Reconcile.Import
import NetworkIsolation.Reconcile.Plan
import NetworkIsolation.Reconcile.Pools
import NetworkIsolation.Reconcile.Spaces

/-!
# The engine

The engine puts plans together from the answers of a store and the settings.
It keeps no state of its own: the configuration is loaded anew for every plan.

The steps of a plan share a session: the backends, and the handle of the load
balancer once there is one.
-/

namespace NetworkIsolation.Reconcile

open NetworkIsolation.Backend NetworkIsolation.Configuration NetworkIsolation.Json
open NetworkIsolation.Store

/-- Why the engine cannot do what it was asked. -/
inductive EngineError where
  | configuration (cause : ConfigurationError)
  | store (cause : StoreError)
  deriving DecidableEq, Repr

/-- The text of an engine error. -/
def EngineError.message : EngineError → String
  | .configuration cause => "configuration error: " ++ cause.message
  | .store cause => "store error: " ++ cause.message

/-- Which steps a plan has. -/
inductive StepSelection where
  | all
  | spaces
  | pools
  deriving DecidableEq, Repr

namespace StepSelection

/-- Whether the spaces are worked on. -/
def hasSpaces : StepSelection → Bool
  | .pools => false
  | _ => true

/-- Whether the pools are worked on. -/
def hasPools : StepSelection → Bool
  | .spaces => false
  | _ => true

end StepSelection

/-- What the steps of a plan work on. -/
structure Session (σ Handle : Type) where
  world : σ
  handle : Option Handle

namespace Session

variable {σ Handle : Type}

/-- Notes go to the backends' state. -/
instance [Journal σ] : Journal (Session σ Handle) where
  record entry session := { session with world := Journal.record entry session.world }

/-- The backends' state as part of a session. -/
def worldPart : Part σ (Session σ Handle) where
  get := Session.world
  set world session := { session with world }

/-- Run a plan in a new session on the backends' state. -/
def within {α : Type} (action : StateM (Session σ Handle) α) : StateM σ α := fun world =>
  let (result, session) := action ⟨world, none⟩
  (result, session.world)

end Session

variable {σ Handle : Type} [Journal σ]

/-- The step that reconciles spaces. -/
def spacesStep (reconciler : SpaceReconciler) (fabric : Fabric σ) :
    Step (Session σ Handle) where
  name := "spaces"
  description := "Reconciling network spaces"
  isApplicable := return reconciler.isApplicable
  apply := do
    let (outcome, _) ← Session.worldPart.lift (reconciler.apply fabric)
    return outcome

/-- The step that reconciles pools. -/
def poolsStep (reconciler : PoolReconciler) (balancer : LoadBalancer σ Handle)
    (fabric : Fabric σ) : Step (Session σ Handle) where
  name := "pools"
  description := "Applying load-balancer pools and service annotations"
  isApplicable := do
    let session ← get
    let (applicability, handle) ←
      Session.worldPart.lift (reconciler.isApplicable balancer session.handle)
    modify fun session => { session with handle }
    return applicability
  apply := do
    let session ← get
    let (outcome, progress) ←
      Session.worldPart.lift (reconciler.apply balancer fabric session.handle)
    modify fun session => { session with handle := progress.handle }
    return outcome

/-- The steps of a configuration. -/
def planSteps (config : IsolationConfig) (names : IsolationNames) (selection : StepSelection)
    (fabric : Fabric σ) (balancer : LoadBalancer σ Handle) : List (Step (Session σ Handle)) :=
  (if selection.hasSpaces then
    [spacesStep (.ofConfig config names.defaultSpace) fabric] else []) ++
  (if selection.hasPools then
    [poolsStep (.ofConfig config names) balancer fabric] else [])

/-- A store and the settings. -/
structure Engine (σ : Type) where
  store : AnswerStore σ
  settings : Settings

namespace Engine

/-- Load a bucket. -/
def loadBucket (engine : Engine σ) (key : String) : StateM σ (Except EngineError Bucket) := do
  let loaded ← engine.store.load key
  return loaded.mapError .store

/-- Load the configuration from the store. -/
def loadConfig (engine : Engine σ) : StateM σ (Except EngineError IsolationConfig) := do
  match ← engine.loadBucket isolationKey with
  | .error error => return .error error
  | .ok isolation =>
    match ← engine.loadBucket addonsKey with
    | .error error => return .error error
    | .ok addons =>
      match IsolationConfig.ofAnswers isolation addons with
      | .error cause => return .error (.configuration cause)
      | .ok config =>
        note .engine .debug
          ("loaded isolation config: enabled=" ++ toString config.enabled ++ " spaces=" ++
            toString config.spaces.length)
        return .ok config

/-- Import the document at a path, or at the path of the settings. -/
def importFrom (engine : Engine σ) (source : TextSource σ) (console : Console σ)
    (path? : Option String) : StateM σ (Except EngineError Bucket) := do
  let imported ← importDocument source engine.store console
    (path?.getD engine.settings.importing.path)
  return imported.mapError .store

/-- Store the load-balancer ranges and keep the other add-on variables. -/
def setRanges (engine : Engine σ) (ranges : PoolRanges) : StateM σ (Except EngineError Unit) := do
  match ← engine.loadBucket addonsKey with
  | .error error => return .error error
  | .ok addons =>
    match ← engine.store.save addonsKey (setPoolRanges addons ranges) with
    | .error cause => return .error (.store cause)
    | .ok () =>
      note .engine .info ("stored load-balancer ranges in '" ++ addonsKey ++ "'")
      return .ok ()

/-- The steps of the stored configuration. -/
def plan (engine : Engine σ) (selection : StepSelection) (fabric : Fabric σ)
    (balancer : LoadBalancer σ Handle) :
    StateM σ (Except EngineError (List (Step (Session σ Handle)))) := do
  let config ← engine.loadConfig
  return config.map fun config =>
    planSteps config engine.settings.names selection fabric balancer

end Engine

/-- The fabric that the settings name, through an invoker. -/
def productionFabric (settings : Settings) (invoker : Invoker σ) : Fabric σ :=
  Juju.fabric ⟨settings.fabric.program, settings.fabric.model⟩ invoker

/-- The load balancer that the settings name, through an invoker. -/
def productionBalancer (settings : Settings) (invoker : Invoker σ)
    (isFile : σ → String → Bool) : LoadBalancer σ Kubectl :=
  Kubectl.balancer ⟨settings.loadBalancer.program, settings.loadBalancer.kubeconfig⟩ invoker isFile

end NetworkIsolation.Reconcile
