import NetworkIsolation.Proofs.Backend.Running
import NetworkIsolation.Proofs.Reconcile.Runner
import NetworkIsolation.Reconcile.Pools
import NetworkIsolation.Reconcile.Spaces

/-!
# What reconciliation inherits from the backends

A reconciler is put together from operations of its backends and from notes.  A
property of actions that holds of doing nothing, and of one action after another if
it holds of both, is therefore inherited: if it holds of the notes and of the
operations that a reconciler uses, then it holds of the reconciler, and of a visit
to its step.

The operations are grouped by who uses them: the reconciler of spaces never asks for
applications, and the reconciler of pools never asks for spaces.
-/

namespace NetworkIsolation.Reconcile

open NetworkIsolation.Backend NetworkIsolation.Configuration

section

variable {σ Handle : Type} [Journal σ] {holds : (α : Type) → StateM σ α → Prop}

/-- A property of actions that notes have and that sequencing keeps. -/
structure Composes (holds : (α : Type) → StateM σ α → Prop) : Prop where
  pure : ∀ {α : Type} (value : α), holds α (pure value)
  bind : ∀ {α β : Type} {action : StateM σ α} {next : α → StateM σ β},
    holds α action → (∀ value, holds β (next value)) → holds β (action >>= next)
  note : ∀ component level message, holds Unit (note component level message)

/-- The operations of a fabric that reconcile spaces have the property. -/
structure SpaceOperations (holds : (α : Type) → StateM σ α → Prop) (fabric : Fabric σ) :
    Prop where
  listSpaces : holds _ fabric.listSpaces
  addSpace : ∀ name subnets, holds _ (fabric.addSpace name subnets)
  setSpaceSubnets : ∀ name subnets, holds _ (fabric.setSpaceSubnets name subnets)
  setModelConfig : ∀ assignment, holds _ (fabric.setModelConfig assignment)

/-- The operations of a fabric that annotate applications have the property. -/
structure ApplicationOperations (holds : (α : Type) → StateM σ α → Prop) (fabric : Fabric σ) :
    Prop where
  listApplications : holds _ fabric.listApplications
  setApplicationConfig : ∀ application assignment jsonOutput,
    holds _ (fabric.setApplicationConfig application assignment jsonOutput)

/-- The operations of a load balancer have the property. -/
structure BalancerOperations (holds : (α : Type) → StateM σ α → Prop)
    (balancer : LoadBalancer σ Handle) : Prop where
  connect : holds _ balancer.connect
  create : ∀ handle resource, holds _ (balancer.create handle resource)
  replace : ∀ handle target resource, holds _ (balancer.replace handle target resource)

variable {fabric : Fabric σ} {balancer : LoadBalancer σ Handle}

theorem Composes.untilFailure {ι ο : Type} {act : ι → StateM σ (Option String × List ο)}
    (composes : Composes holds) (each : ∀ item, holds _ (act item)) (items : List ι) :
    holds _ (untilFailure act items) := by
  induction items with
  | nil => exact composes.pure _
  | cons item items induction_hypothesis =>
      refine composes.bind (each item) ?_
      rintro ⟨failure, outcomes⟩
      cases failure with
      | some reason => exact composes.pure _
      | none => exact composes.bind induction_hypothesis fun _ => composes.pure _

/-! ## Spaces -/

namespace SpaceReconciler

theorem holds_ensureSpace (composes : Composes holds) (operations : SpaceOperations holds fabric)
    (live : List String) (space : Space) : holds _ (ensureSpace fabric live space) := by
  rw [ensureSpace]
  split
  · refine composes.bind (operations.setSpaceSubnets _ _) ?_
    intro reply
    cases reply with
    | ok value => exact composes.bind (composes.note _ _ _) fun _ => composes.pure _
    | error error => exact composes.bind (composes.note _ _ _) fun _ => composes.pure _
  · refine composes.bind (operations.addSpace _ _) ?_
    intro reply
    cases reply with
    | ok value => exact composes.bind (composes.note _ _ _) fun _ => composes.pure _
    | error error => exact composes.pure _

theorem holds_applySpace (composes : Composes holds) (operations : SpaceOperations holds fabric)
    (live : List String) (space : Space) : holds _ (applySpace fabric live space) := by
  rw [applySpace]
  split
  · exact composes.bind (composes.note _ _ _) fun _ => composes.pure _
  · refine composes.bind (holds_ensureSpace composes operations live space) ?_
    intro outcome
    cases outcome <;> exact composes.pure _

theorem holds_setDefaultSpace (composes : Composes holds)
    (operations : SpaceOperations holds fabric) (reconciler : SpaceReconciler) :
    holds _ (reconciler.setDefaultSpace fabric) := by
  refine composes.bind (operations.setModelConfig _) ?_
  intro reply
  cases reply with
  | ok value => exact composes.pure _
  | error error => exact composes.bind (composes.note _ _ _) fun _ => composes.pure _

/-- Applying the reconciliation of spaces begins with listing those that are there. -/
theorem exists_apply_eq (composes : Composes holds) (operations : SpaceOperations holds fabric)
    (reconciler : SpaceReconciler) :
    ∃ next : Reply (List String) → StateM σ (StepOutcome × SpaceProgress),
      reconciler.apply fabric = fabric.listSpaces >>= next ∧ ∀ reply, holds _ (next reply) := by
  refine ⟨_, rfl, ?_⟩
  intro reply
  cases reply with
  | error error => exact composes.pure _
  | ok live =>
      refine composes.bind (composes.note _ _ _) fun _ => ?_
      refine composes.bind (composes.untilFailure (holds_applySpace composes operations live)
        reconciler.spaces) ?_
      rintro ⟨failure, outcomes⟩
      cases failure with
      | some reason => exact composes.pure _
      | none =>
          exact composes.bind (holds_setDefaultSpace composes operations reconciler) fun _ =>
            composes.pure _

/-- Applying the reconciliation of spaces inherits what its operations have. -/
theorem holds_apply (composes : Composes holds) (operations : SpaceOperations holds fabric)
    (reconciler : SpaceReconciler) : holds _ (reconciler.apply fabric) := by
  rcases reconciler.exists_apply_eq composes operations with ⟨next, begins, rest⟩
  rw [begins]
  exact composes.bind operations.listSpaces rest

end SpaceReconciler

/-! ## Pools -/

namespace PoolReconciler

theorem holds_connect (composes : Composes holds) (operations : BalancerOperations holds balancer)
    (handle? : Option Handle) : holds _ (connect balancer handle?) := by
  cases handle? with
  | some handle => exact composes.pure _
  | none => exact operations.connect

/-- The check of the pools inherits what connecting has. -/
theorem holds_isApplicable (composes : Composes holds)
    (operations : BalancerOperations holds balancer) (reconciler : PoolReconciler)
    (handle? : Option Handle) : holds _ (reconciler.isApplicable balancer handle?) := by
  rw [isApplicable]
  split
  · exact composes.pure _
  · refine composes.bind (holds_connect composes operations handle?) ?_
    intro reply
    cases reply <;> exact composes.pure _

theorem holds_createOrReplace (composes : Composes holds)
    (operations : BalancerOperations holds balancer) (handle : Handle) (resource : Resource) :
    holds _ (createOrReplace balancer handle resource) := by
  refine composes.bind (operations.create handle resource) ?_
  intro reply
  cases reply with
  | ok value => exact composes.pure _
  | error createError =>
      refine composes.bind (composes.note _ _ _) fun _ => ?_
      refine composes.bind (operations.replace handle resource.target resource) ?_
      intro reply
      cases reply <;> exact composes.pure _

theorem holds_applyRole (composes : Composes holds)
    (operations : BalancerOperations holds balancer) (names : IsolationNames) (handle : Handle)
    (entry : PoolRole × String) : holds _ (applyRole names balancer handle entry) := by
  rcases entry with ⟨role, range⟩
  have each : ∀ resource, holds _ (applyResource balancer handle resource) := fun resource =>
    composes.bind (holds_createOrReplace composes operations handle resource) fun _ =>
      composes.pure _
  refine composes.bind (composes.untilFailure each _) ?_
  rintro ⟨failure, outcomes⟩
  cases failure with
  | some reason => exact composes.pure _
  | none => exact composes.bind (composes.note _ _ _) fun _ => composes.pure _

theorem holds_annotateService (composes : Composes holds)
    (operations : ApplicationOperations holds fabric) (names : IsolationNames)
    (deployed : List String) (service : AnnotatedService) :
    holds _ (annotateService names fabric deployed service) := by
  rw [annotateService]
  split
  · refine composes.bind (operations.setApplicationConfig _ _ _) ?_
    intro reply
    cases reply with
    | error error => exact composes.pure _
    | ok output => exact composes.bind (composes.note _ _ _) fun _ => composes.pure _
  · exact composes.bind (composes.note _ _ _) fun _ => composes.pure _

theorem holds_annotateServices (composes : Composes holds)
    (operations : ApplicationOperations holds fabric) (names : IsolationNames) :
    holds _ (annotateServices names fabric) := by
  refine composes.bind operations.listApplications ?_
  intro reply
  cases reply with
  | error error => exact composes.pure _
  | ok deployed =>
      exact composes.untilFailure (holds_annotateService composes operations names deployed)
        names.services

theorem holds_applyWith (composes : Composes holds)
    (pools : BalancerOperations holds balancer) (applications : ApplicationOperations holds fabric)
    (reconciler : PoolReconciler) (handle : Handle) :
    holds _ (reconciler.applyWith balancer fabric handle) := by
  refine composes.bind (composes.untilFailure
    (holds_applyRole composes pools reconciler.names handle) _) ?_
  rintro ⟨failure, outcomes⟩
  cases failure with
  | some reason => exact composes.pure _
  | none =>
      exact composes.bind (holds_annotateServices composes applications reconciler.names) fun _ =>
        composes.pure _

/-- Applying the reconciliation of pools inherits what its operations have. -/
theorem holds_apply (composes : Composes holds) (pools : BalancerOperations holds balancer)
    (applications : ApplicationOperations holds fabric) (reconciler : PoolReconciler)
    (handle? : Option Handle) : holds _ (reconciler.apply balancer fabric handle?) := by
  rw [apply]
  split
  · exact composes.bind (composes.note _ _ _) fun _ => composes.pure _
  · refine composes.bind (holds_connect composes pools handle?) ?_
    intro reply
    cases reply with
    | error error => exact composes.pure _
    | ok handle =>
        refine composes.bind (holds_applyWith composes pools applications reconciler handle) ?_
        rintro ⟨failure, progress⟩
        cases failure with
        | none => exact composes.pure _
        | some reason => exact composes.bind (composes.note _ _ _) fun _ => composes.pure _

end PoolReconciler

/-! ## Visits to steps -/

/-- A visit inherits what the check and the application of its step have. -/
theorem holds_visitStep (composes : Composes holds) {onApply : Step σ → StateM σ Unit}
    {step : Step σ} (checks : holds _ step.isApplicable) (observes : holds _ (onApply step))
    (applies : holds _ step.apply) : holds _ (visitStep onApply step) := by
  refine composes.bind checks ?_
  intro applicability
  cases applicability with
  | skipped reason => exact composes.bind (composes.note _ _ _) fun _ => composes.pure _
  | failed reason => exact composes.bind (composes.note _ _ _) fun _ => composes.pure _
  | ready =>
      refine composes.bind (composes.note _ _ _) fun _ => composes.bind observes fun _ => ?_
      refine composes.bind applies ?_
      intro outcome
      cases outcome with
      | completed => exact composes.pure _
      | failed reason => exact composes.bind (composes.note _ _ _) fun _ => composes.pure _

end

end NetworkIsolation.Reconcile
