import Mathlib.Data.List.Forall2
import NetworkIsolation.Proofs.Backend.Simulation
import NetworkIsolation.Proofs.Backend.Tracing
import NetworkIsolation.Proofs.Reconcile.FailStop
import NetworkIsolation.Proofs.Reconcile.Inheritance
import NetworkIsolation.Reconcile.Engine

/-!
# Disabled configurations

The flag of a configuration is there to switch its reconciliation off.  A reconciler
can be checked and it can be applied, in any order and any number of times.  While
the configuration is disabled both checks and the application of pools look at the
flag and do nothing else.

Applying the reconciliation of spaces does not look at the flag: it begins with
listing the spaces of the fabric, whatever the flag is.  A sequence of calls on a
disabled configuration therefore reaches a backend exactly if it contains such an
application, and then it is the fabric that is reached.
-/

namespace NetworkIsolation.Reconcile

open NetworkIsolation.Backend NetworkIsolation.Configuration

/-- A call of one of the two reconcilers. -/
inductive ReconcilerCall where
  | checkSpaces
  | applySpaces
  | checkPools
  | applyPools
  deriving DecidableEq, Repr

/-- What a call of a reconciler returns. -/
inductive ReconcilerReply where
  | checked (applicability : Applicability)
  | applied (outcome : StepOutcome)
  deriving DecidableEq, Repr

/-- Whether a call returns what is expected while the configuration is disabled. -/
def ReconcilerCall.ExpectsDisabled : ReconcilerCall → ReconcilerReply → Prop
  | .checkSpaces, reply => reply = .checked (.skipped "network isolation disabled")
  | .checkPools, reply => reply = .checked (.skipped "network isolation disabled")
  | .applyPools, reply => reply = .applied .completed
  | .applySpaces, reply => ∃ outcome, reply = .applied outcome

section

variable {σ Handle : Type} [Journal σ]

/-- Perform a call on the reconcilers of a configuration. -/
def ReconcilerCall.perform (config : IsolationConfig) (names : IsolationNames) (fabric : Fabric σ)
    (balancer : LoadBalancer σ Handle) :
    ReconcilerCall → StateM (Session σ Handle) ReconcilerReply
  | .checkSpaces => do
    return .checked (← (spacesStep (.ofConfig config names.defaultSpace) fabric).isApplicable)
  | .applySpaces => do
    return .applied (← (spacesStep (.ofConfig config names.defaultSpace) fabric).apply)
  | .checkPools => do
    return .checked (← (poolsStep (.ofConfig config names) balancer fabric).isApplicable)
  | .applyPools => do
    return .applied (← (poolsStep (.ofConfig config names) balancer fabric).apply)

/-- Perform calls one after the other. -/
def performCalls (config : IsolationConfig) (names : IsolationNames) (fabric : Fabric σ)
    (balancer : LoadBalancer σ Handle) :
    List ReconcilerCall → StateM (Session σ Handle) (List ReconcilerReply)
  | [] => return []
  | call :: calls => do
    let reply ← call.perform config names fabric balancer
    let replies ← performCalls config names fabric balancer calls
    return reply :: replies

/-! ## What looks at the flag -/

variable {config : IsolationConfig} {names : IsolationNames} {fabric : Fabric σ}
  {balancer : LoadBalancer σ Handle}

/-- Applying the reconciliation of spaces works on the backends whatever the flag is. -/
theorem ReconcilerCall.perform_applySpaces :
    ReconcilerCall.applySpaces.perform config names fabric balancer = (do
      let result ← Session.worldPart.lift
        ((SpaceReconciler.ofConfig config names.defaultSpace).apply fabric)
      return .applied result.1) :=
  rfl

theorem resolvedRanges_of_disabled (disabled : config.enabled = false) (names : IsolationNames) :
    (PoolReconciler.ofConfig config names).resolvedRanges.isEmpty = true := by
  simp [PoolReconciler.resolvedRanges, PoolReconciler.ofConfig, disabled, PoolRanges.resolve,
    ResolvedRanges.none, ResolvedRanges.isEmpty]

theorem run_checkSpaces_of_disabled (disabled : config.enabled = false)
    (session : Session σ Handle) :
    ReconcilerCall.checkSpaces.perform config names fabric balancer session =
      (.checked (.skipped "network isolation disabled"), session) := by
  simp [ReconcilerCall.perform, spacesStep, SpaceReconciler.isApplicable,
    SpaceReconciler.ofConfig, disabled]

theorem run_checkPools_of_disabled (disabled : config.enabled = false)
    (session : Session σ Handle) :
    ReconcilerCall.checkPools.perform config names fabric balancer session =
      (.checked (.skipped "network isolation disabled"), session) := by
  have nothing := resolvedRanges_of_disabled disabled names
  simp only [ReconcilerCall.perform, poolsStep, PoolReconciler.isApplicable, if_pos nothing]
  simp [PoolReconciler.ofConfig, disabled, Session.worldPart]
  rfl

theorem run_applyPools_of_disabled (disabled : config.enabled = false) (names : IsolationNames)
    (fabric : Fabric σ) (balancer : LoadBalancer σ Handle) (session : Session σ Handle) :
    ∃ component level message,
      ReconcilerCall.applyPools.perform config names fabric balancer session =
        (.applied .completed, Journal.record ⟨component, level, message⟩ session) := by
  have nothing := resolvedRanges_of_disabled disabled names
  simp only [ReconcilerCall.perform, poolsStep, PoolReconciler.apply, if_pos nothing]
  exact ⟨_, _, _, rfl⟩

end

/-! ## What reaches a backend -/

section

variable {σ ε : Type} {event : FabricEvent → ε}

/-- Emitting nothing but events of the fabric. -/
def OnlyFabric (event : FabricEvent → ε) (α : Type) (action : StateM (Traced σ ε) α) : Prop :=
  Traced.observation.Emits action fun _ events =>
    ∀ reached ∈ events, ∃ happened, reached = event happened

theorem composes_onlyFabric [Journal σ] :
    Composes fun α (action : StateM (Traced σ ε) α) => OnlyFabric event α action where
  pure value := Observation.emits_pure (by simp)
  bind emits follows := emits.bind fun result events first =>
    (follows result).mono fun _ further second reached member =>
      (List.mem_append.mp member).elim (first reached) (second reached)
  note component level message := by
    intro traced
    exact ⟨[], Traced.silent _ traced, by simp⟩

theorem onlyFabric_watch {α : Type} (action : StateM σ α) (happened : α → FabricEvent) :
    OnlyFabric event α (Traced.watch action fun reply => event (happened reply)) := by
  refine (Traced.emits_watch _ _).mono ?_
  rintro reply events rfl reached member
  exact ⟨_, List.mem_singleton.mp member⟩

theorem spaceOperations_traced (fabric : Fabric σ) :
    SpaceOperations (OnlyFabric event) (fabric.traced event) where
  listSpaces := onlyFabric_watch _ _
  addSpace _ _ := onlyFabric_watch _ _
  setSpaceSubnets _ _ := onlyFabric_watch _ _
  setModelConfig _ := onlyFabric_watch _ _

/-- Applying the reconciliation of spaces reaches the fabric, and nothing but the fabric. -/
theorem SpaceReconciler.emits_apply_traced [Journal σ] (reconciler : SpaceReconciler)
    (fabric : Fabric σ) (event : FabricEvent → ε) :
    Traced.observation.Emits (reconciler.apply (fabric.traced event)) fun _ events =>
      (∀ reached ∈ events, ∃ happened, reached = event happened) ∧ events ≠ [] := by
  rcases reconciler.exists_apply_eq composes_onlyFabric (spaceOperations_traced fabric) with
    ⟨next, begins, rest⟩
  rw [begins]
  refine (fabric.emits_listSpaces event).bind ?_
  rintro reply events rfl
  refine (rest reply).mono ?_
  intro result further known
  exact ⟨List.forall_mem_cons.mpr ⟨⟨_, rfl⟩, known⟩, List.cons_ne_nil _ _⟩

end

section

variable {σ Handle : Type} [Journal σ] {config : IsolationConfig}

/-- What a call on a disabled configuration returns, and which events it emits. -/
theorem ReconcilerCall.emits_perform (disabled : config.enabled = false) (names : IsolationNames)
    (fabric : Fabric σ) (balancer : LoadBalancer σ Handle) (call : ReconcilerCall) :
    (Traced.observation.lift Session.worldPart).Emits
      (call.perform config names (fabric.traced OuterEvent.fabric)
        (balancer.traced OuterEvent.balancer))
      fun reply events => call.ExpectsDisabled reply ∧
        (∀ reached ∈ events, ∃ happened, reached = .fabric happened) ∧
        (events = [] ↔ call ≠ .applySpaces) := by
  cases call with
  | checkSpaces =>
      intro session
      rw [Observation.EmitsAt, run_checkSpaces_of_disabled disabled]
      exact ⟨[], Observation.stays _ session, rfl, by simp, by simp⟩
  | checkPools =>
      intro session
      rw [Observation.EmitsAt, run_checkPools_of_disabled disabled]
      exact ⟨[], Observation.stays _ session, rfl, by simp, by simp⟩
  | applyPools =>
      intro session
      rcases run_applyPools_of_disabled disabled names (fabric.traced OuterEvent.fabric)
        (balancer.traced OuterEvent.balancer) session with ⟨component, level, message, completed⟩
      rw [Observation.EmitsAt, completed]
      exact ⟨[], Traced.silent _ session.world, rfl, by simp, by simp⟩
  | applySpaces =>
      have asks := (SpaceReconciler.ofConfig config names.defaultSpace).emits_apply_traced fabric
        (OuterEvent.fabric : FabricEvent → OuterEvent Handle)
      rw [perform_applySpaces]
      refine (asks.lift Session.worldPart_lawful).bind ?_
      rintro result events ⟨known, reached⟩
      exact Observation.emits_pure (by simpa [ExpectsDisabled, reached] using known)

/-- What calls on a disabled configuration return, and which events they emit. -/
theorem emits_performCalls (disabled : config.enabled = false) (names : IsolationNames)
    (fabric : Fabric σ) (balancer : LoadBalancer σ Handle) (calls : List ReconcilerCall) :
    (Traced.observation.lift Session.worldPart).Emits
      (performCalls config names (fabric.traced OuterEvent.fabric)
        (balancer.traced OuterEvent.balancer) calls)
      fun replies events => List.Forall₂ ReconcilerCall.ExpectsDisabled calls replies ∧
        (∀ reached ∈ events, ∃ happened, reached = .fabric happened) ∧
        (events = [] ↔ .applySpaces ∉ calls) := by
  induction calls with
  | nil => exact Observation.emits_pure ⟨.nil, by simp, by simp⟩
  | cons call calls induction_hypothesis =>
      refine (call.emits_perform disabled names fabric balancer).bind ?_
      rintro reply events ⟨expected, known, empty⟩
      refine induction_hypothesis.bind ?_
      rintro replies further ⟨all_expected, all_known, all_empty⟩
      refine Observation.emits_pure ⟨.cons expected all_expected, ?_, ?_⟩
      · rw [List.append_nil]
        exact fun reached member =>
          (List.mem_append.mp member).elim (known reached) (all_known reached)
      · rw [List.append_nil, List.append_eq_nil_iff, empty, all_empty, List.mem_cons, not_or,
          ne_comm]

end

/--
For every disabled configuration, all names, any backends and all sequences of calls:
every check says that isolation is disabled, applying pools is completed, and no load
balancer is reached.  The fabric is reached exactly if the reconciliation of spaces
is applied.
-/
theorem performCalls_reaches_nothing_iff {σ Handle : Type} [Journal σ] {config : IsolationConfig}
    (disabled : config.enabled = false) (names : IsolationNames) (fabric : Fabric σ)
    (balancer : LoadBalancer σ Handle) (calls : List ReconcilerCall)
    (start : Session (Traced σ (OuterEvent Handle)) Handle) :
    ∃ replies after events,
      performCalls config names (fabric.traced .fabric) (balancer.traced .balancer) calls start =
        (replies, after) ∧
      after.world.events = start.world.events ++ events ∧
      List.Forall₂ ReconcilerCall.ExpectsDisabled calls replies ∧
      (∀ reached ∈ events, ∃ happened, reached = .fabric happened) ∧
      (events = [] ↔ .applySpaces ∉ calls) := by
  rcases emits_performCalls disabled names fabric balancer calls start with
    ⟨events, reached, facts⟩
  exact ⟨_, _, events, rfl, reached, facts⟩

/-- A disabled configuration that still has a space and a range. -/
def disabledConfig : IsolationConfig :=
  ⟨false, [⟨"storage", ["10.0.0.0/24"]⟩], ⟨some "10.1.0.1-10.1.0.9", none, none⟩⟩

/-- Simulated backends that have nothing, under a trace. -/
def untouched : Session (Traced Simulation (OuterEvent Unit)) Unit :=
  ⟨⟨⟨{}, {}⟩, []⟩, none⟩

/-- Pools may be applied before anything is checked, and neither backend is reached. -/
theorem performCalls_reaches_nothing_without_applySpaces :
    let calls : List ReconcilerCall := [.applyPools, .checkSpaces, .checkPools]
    disabledConfig.enabled = false ∧
    ∃ replies after events,
      performCalls disabledConfig {} ((Simulation.networkFabric "openstack").traced .fabric)
        (Simulation.loadBalancer.traced .balancer) calls untouched = (replies, after) ∧
      after.world.events = untouched.world.events ++ events ∧
      List.Forall₂ ReconcilerCall.ExpectsDisabled calls replies ∧
      (∀ reached ∈ events, ∃ happened, reached = .fabric happened) ∧
      (events = [] ↔ .applySpaces ∉ calls) :=
  ⟨rfl, performCalls_reaches_nothing_iff rfl _ _ _ _ _⟩

/-- Applied while it is disabled, the reconciliation of spaces adds a space to the fabric. -/
theorem performCalls_adds_space_while_disabled :
    disabledConfig.enabled = false ∧
    (performCalls disabledConfig {} ((Simulation.networkFabric "openstack").traced .fabric)
        (Simulation.loadBalancer.traced .balancer) [.checkSpaces, .applySpaces]
        untouched).2.world.events =
      [.fabric (.listSpaces (.ok [])), .fabric (.addSpace "storage" ["10.0.0.0/24"] (.ok ())),
        .fabric (.setModelConfig "default-space=management" (.ok ()))] :=
  ⟨rfl, rfl⟩

end NetworkIsolation.Reconcile
