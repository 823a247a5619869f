import NetworkIsolation.Proofs.Reconcile.Convergence
import NetworkIsolation.Proofs.Reconcile.Inheritance

/-!
# Annotations and the pools that they name

Which pools are put in place is decided by the ranges.  Which applications are
annotated is decided by the table of services and the applications that are deployed.
Neither decision looks at the other one: an application is pointed at the pool of its
role also when the role has no range.

An annotation therefore names a pool that is there exactly if its role has a range or
the pool was there before.
-/

namespace NetworkIsolation.Reconcile.PoolReconciler

open NetworkIsolation.Backend NetworkIsolation.Configuration

/-! ## Working on pools leaves the fabric alone -/

/-- Leaving the simulated fabric as it is, with its calls. -/
def LeavesFabric (α : Type) (action : StateM Simulation α) : Prop :=
  ∀ simulation, (action simulation).2.fabric = simulation.fabric

theorem composes_leavesFabric : Composes LeavesFabric where
  pure _ _ := rfl
  bind first rest simulation := (rest _ _).trans (first simulation)
  note _ _ _ _ := rfl

theorem balancerOperations_leavesFabric :
    BalancerOperations LeavesFabric Simulation.loadBalancer where
  connect _ := rfl
  create _ _ _ := rfl
  replace _ _ _ _ := rfl

theorem connected_fabric (held : Option Unit) (simulation : Simulation) :
    (connected held simulation).fabric = simulation.fabric :=
  holds_connect composes_leavesFabric balancerOperations_leavesFabric held simulation

theorem applyRoles_fabric (reconciler : PoolReconciler) (simulation : Simulation) :
    (reconciler.applyRoles simulation).2.fabric = simulation.fabric :=
  composes_leavesFabric.untilFailure
    (holds_applyRole composes_leavesFabric balancerOperations_leavesFabric reconciler.names ())
    _ simulation

/-! ## The calls of the annotations -/

/-- The call that points an application at the pool of its role. -/
def annotationCall (names : IsolationNames) (service : AnnotatedService) : FabricCall :=
  .setApplicationConfig service.application (annotationAssignment names service.role) false

/-- The services whose applications are deployed, in table order. -/
def targets (names : IsolationNames) (fabric : SimulatedFabric) : List AnnotatedService :=
  names.services.filter fun service => fabric.applications.contains service.application

theorem annotateService_calls (names : IsolationNames) (model : String) (deployed : List String)
    (service : AnnotatedService) (simulation : Simulation)
    (succeeded : (annotateService names (Simulation.networkFabric model) deployed service
      simulation).1.1 = none) :
    (annotateService names (Simulation.networkFabric model) deployed service
        simulation).2.fabric.calls =
      simulation.fabric.calls ++
        if deployed.contains service.application then [annotationCall names service] else [] := by
  rw [annotateService] at succeeded ⊢
  by_cases is_deployed : deployed.contains service.application = true
  · rw [if_pos is_deployed, run_bind, Simulation.run_setApplicationConfig] at succeeded ⊢
    rw [if_pos is_deployed]
    cases reply : (SimulatedFabric.setApplicationConfig service.application
      (annotationAssignment names service.role) false simulation.fabric).1 with
    | error error =>
        rw [reply] at succeeded
        cases succeeded
    | ok output => rfl
  · rw [if_neg is_deployed, if_neg is_deployed, List.append_nil]
    rfl

theorem map_targets (names : IsolationNames) (fabric : SimulatedFabric) :
    (targets names fabric).map (annotationCall names) =
      names.services.flatMap fun service =>
        if (Text.sorted fabric.applications).contains service.application then
          [annotationCall names service]
        else [] := by
  rw [targets]
  induction names.services with
  | nil => rfl
  | cons service services induction_hypothesis =>
      rw [List.flatMap_cons, ← induction_hypothesis, List.filter_cons]
      simp only [List.contains_iff_mem, Text.mem_sorted]
      split <;> rfl

/-- Annotations that succeed are made for the services that are deployed, and for no others. -/
theorem annotate_calls {reconciler : PoolReconciler} {model : String} {simulation : Simulation}
    (succeeded : (reconciler.annotate model simulation).1.1 = none) :
    (reconciler.annotate model simulation).2.fabric.calls =
      simulation.fabric.calls ++ .listApplications ::
        (targets reconciler.names simulation.fabric).map (annotationCall reconciler.names) := by
  rw [annotate, annotateServices, run_bind, Simulation.run_listApplications] at succeeded ⊢
  by_cases refusing : simulation.fabric.failListApplications = true
  · rw [if_pos refusing] at succeeded
    cases succeeded
  · rw [if_neg refusing] at succeeded ⊢
    have worked := untilFailure_adds (fun state : Simulation => state.fabric.calls)
      List.append_nil (fun _ _ _ => (List.append_assoc _ _ _).symm)
      (annotateService_calls reconciler.names model (Text.sorted simulation.fabric.applications))
      succeeded
    rw [map_targets]
    exact worked.trans (List.append_assoc _ _ _)

/-! ## The whole application -/

section

variable {reconciler : PoolReconciler} {model : String} {held : Option Unit}
  {simulation : Simulation}

/-- The calls of the fabric that an application makes when it is completed. -/
def annotationCalls (reconciler : PoolReconciler) (fabric : SimulatedFabric) : List FabricCall :=
  if reconciler.resolvedRanges.get .publicSide = none ∧
      reconciler.resolvedRanges.get .internalSide = none then []
  else .listApplications ::
    (targets reconciler.names fabric).map (annotationCall reconciler.names)

theorem annotationCalls_of_isEmpty (unresolved : reconciler.resolvedRanges.isEmpty = true)
    (fabric : SimulatedFabric) : reconciler.annotationCalls fabric = [] :=
  if_pos ⟨get_of_isEmpty unresolved .publicSide, get_of_isEmpty unresolved .internalSide⟩

theorem annotationCalls_of_resolved (resolved : reconciler.resolvedRanges.isEmpty = false)
    (fabric : SimulatedFabric) : reconciler.annotationCalls fabric = .listApplications ::
      (targets reconciler.names fabric).map (annotationCall reconciler.names) := by
  refine if_neg ?_
  rintro ⟨no_public, no_internal⟩
  rcases resolvesSomething_iff.mp resolved with ⟨role, range, given⟩
  cases role with
  | publicSide => cases no_public.symm.trans given
  | internalSide => cases no_internal.symm.trans given

/-- Without any range an application does nothing. -/
theorem simulate_of_isEmpty (unresolved : reconciler.resolvedRanges.isEmpty = true) :
    (reconciler.simulate model held simulation).2 = simulation := by
  rw [simulate, apply, if_pos unresolved]
  rfl

theorem simulate_calls (completed : (reconciler.simulate model held simulation).1.1 = .completed) :
    (reconciler.simulate model held simulation).2.fabric.calls =
      simulation.fabric.calls ++ reconciler.annotationCalls simulation.fabric := by
  cases resolved : reconciler.resolvedRanges.isEmpty with
  | true =>
      rw [simulate_of_isEmpty resolved, annotationCalls_of_isEmpty resolved, List.append_nil]
  | false =>
      rcases of_simulate_completed resolved completed with ⟨handled, applied, annotated⟩
      rcases simulate_of_succeeded resolved handled applied annotated with ⟨-, -, final⟩
      rw [final, annotate_calls annotated, applyRoles_fabric, connected_fabric,
        annotationCalls_of_resolved resolved]

theorem poolKey_injective {names : IsolationNames} (usable : names.validate = .ok ())
    {first second : PoolRole} (same : poolKey names first = poolKey names second) :
    first = second :=
  pool_injective usable (ResourceTarget.name_eq_of_key_eq (poolResource names first "").target
    (poolResource names second "").target rfl same)

/-- A pool is there after a completed application if it has a range or was there before. -/
theorem pool_isSome_iff (usable : reconciler.names.validate = .ok ())
    (completed : (reconciler.simulate model held simulation).1.1 = .completed) (role : PoolRole) :
    ((reconciler.simulate model held simulation).2.balancer.resource?
        (poolKey reconciler.names role)).isSome = true ↔
      (reconciler.resolvedRanges.get role).isSome = true ∨
        (simulation.balancer.resource? (poolKey reconciler.names role)).isSome = true := by
  cases resolved : reconciler.resolvedRanges.isEmpty with
  | true =>
      rw [simulate_of_isEmpty resolved, get_of_isEmpty resolved role]
      simp
  | false =>
      have converged := converged_of_keeps usable (simulate_keeps resolved completed)
      cases given : reconciler.resolvedRanges.get role with
      | some range => simp [converged.pool_is_there role range given]
      | none =>
          rw [converged.others_are_kept]
          · simp
          · intro other range found
            constructor
            · intro same
              rw [poolKey_injective usable same, found] at given
              cases given
            · intro same
              cases congrArg ResourceKey.kind same

/--
For all names that are accepted and any simulated backends: a completed application
has annotated the deployed services and no others.  Whatever is annotated, the pool of a
role is there afterwards exactly if the role has a range or the pool was there before.
-/
theorem annotated_pool_exists_iff (usable : reconciler.names.validate = .ok ())
    (completed : (reconciler.simulate model held simulation).1.1 = .completed) :
    (reconciler.simulate model held simulation).2.fabric.calls =
        simulation.fabric.calls ++ reconciler.annotationCalls simulation.fabric ∧
      ∀ role,
        ((reconciler.simulate model held simulation).2.balancer.resource?
            (poolKey reconciler.names role)).isSome = true ↔
          (reconciler.resolvedRanges.get role).isSome = true ∨
            (simulation.balancer.resource? (poolKey reconciler.names role)).isSome = true :=
  ⟨simulate_calls completed, pool_isSome_iff usable completed⟩

end

/-- A reconciliation of pools with a range for the public pool alone. -/
def publicPool : PoolReconciler :=
  ⟨true, ⟨some "10.1.0.0/24, 10.1.1.0/24", none, none⟩, {}⟩

/-- Backends with both kinds of front-end applications, and an internal pool from before. -/
def internalPoolBefore : Simulation where
  balancer := { resources :=
    [(poolKey {} .internalSide, poolResource {} .internalSide "192.0.2.0/24")] }
  fabric := { applications := ["traefik-public", "traefik", "keystone"] }

/-- An internal pool from before is still there for the application that is annotated with it. -/
theorem annotated_pool_exists_from_before :
    publicPool.names.validate = .ok () ∧
    (publicPool.simulate "openstack" none internalPoolBefore).1.1 = .completed ∧
    (publicPool.simulate "openstack" none internalPoolBefore).2.fabric.calls =
        internalPoolBefore.fabric.calls ++ publicPool.annotationCalls internalPoolBefore.fabric ∧
      ∀ role,
        ((publicPool.simulate "openstack" none internalPoolBefore).2.balancer.resource?
            (poolKey publicPool.names role)).isSome = true ↔
          (publicPool.resolvedRanges.get role).isSome = true ∨
            (internalPoolBefore.balancer.resource? (poolKey publicPool.names role)).isSome =
              true := by
  have usable : publicPool.names.validate = .ok () := by decide +kernel
  have completed : (publicPool.simulate "openstack" none internalPoolBefore).1.1 = .completed := by
    decide +kernel
  exact ⟨usable, completed, annotated_pool_exists_iff usable completed⟩

/-- With a public range alone, `traefik` is pointed at an internal pool that is not there. -/
theorem annotated_pool_is_missing :
    publicPool.enabled = true ∧ publicPool.names.validate = .ok () ∧
    (publicPool.simulate "openstack" none ⟨{}, { applications := ["traefik"] }⟩).1.1 =
      .completed ∧
    (publicPool.simulate "openstack" none ⟨{}, { applications := ["traefik"] }⟩).2.fabric.calls =
      [.listApplications, annotationCall publicPool.names ⟨"traefik", .internalSide⟩] ∧
    ((publicPool.simulate "openstack" none
      ⟨{}, { applications := ["traefik"] }⟩).2.balancer.resource?
        (poolKey publicPool.names .internalSide)).isSome = false := by
  decide +kernel

end NetworkIsolation.Reconcile.PoolReconciler
