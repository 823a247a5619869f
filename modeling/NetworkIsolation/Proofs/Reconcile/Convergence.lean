import Mathlib.Data.List.Nodup
import NetworkIsolation.Proofs.Backend.Simulation
import NetworkIsolation.Proofs.Reconcile.Repetition
import NetworkIsolation.Reconcile.Pools

/-!
# Pools converge

A reconciliation of pools that is completed has put in place one pool and one
advertisement for every range, whatever was there before and whichever of them
had to be replaced, and has left every other resource alone.  When it is done
again nothing changes any more.

Nothing is put over anything else because the names that are accepted keep the
two roles apart, and pools and advertisements have keys of different kinds.
-/

namespace NetworkIsolation.Reconcile

open NetworkIsolation.Backend NetworkIsolation.Configuration

namespace PoolReconciler

/-! ## The resources that are wanted -/

/-- The pool that a role is to have, which hands out the addresses of its range. -/
def wantedPool (names : IsolationNames) (role : PoolRole) (range : String) : Resource where
  kind := .addressPool
  name := names.pool role
  space := names.resourceNamespace
  spec := .object [("addresses", .array ((addressList range).map .string))]

/-- The advertisement that a role is to have, which is for its pool alone. -/
def wantedAdvertisement (names : IsolationNames) (role : PoolRole) : Resource where
  kind := .advertisement
  name := names.advertisement role
  space := names.resourceNamespace
  spec := .object [("ipAddressPools", .array [.string (names.pool role)])]

/-- What a role is to have: nothing without a range, and else its pool and the advertisement. -/
def wantedFor (names : IsolationNames) (role : PoolRole) : Option String → List Resource
  | none => []
  | some range => [wantedPool names role range, wantedAdvertisement names role]

/-- All resources that are to be there, those of the public side first. -/
def wanted (reconciler : PoolReconciler) : List Resource :=
  wantedFor reconciler.names .publicSide (reconciler.resolvedRanges.get .publicSide) ++
    wantedFor reconciler.names .internalSide (reconciler.resolvedRanges.get .internalSide)

/-- The resources that are worked on for a role with its range. -/
def roleResources (names : IsolationNames) (entry : PoolRole × String) : List Resource :=
  [poolResource names entry.1 entry.2, advertisementResource names entry.1]

/-- The key under which the pool of a role is kept. -/
def poolKey (names : IsolationNames) (role : PoolRole) : ResourceKey :=
  ⟨.addressPool, names.resourceNamespace ++ "/" ++ names.pool role⟩

/-- The key under which the advertisement of a role is kept. -/
def advertisementKey (names : IsolationNames) (role : PoolRole) : ResourceKey :=
  ⟨.advertisement, names.resourceNamespace ++ "/" ++ names.advertisement role⟩

@[simp]
theorem poolResource_key (names : IsolationNames) (role : PoolRole) (range : String) :
    (poolResource names role range).target.key = poolKey names role := rfl

@[simp]
theorem advertisementResource_key (names : IsolationNames) (role : PoolRole) :
    (advertisementResource names role).target.key = advertisementKey names role := rfl

theorem mem_toList {ranges : ResolvedRanges} {role : PoolRole} {range : String} :
    (role, range) ∈ ranges.toList ↔ ranges.get role = some range := by
  cases role <;> simp [ResolvedRanges.toList, PoolRole.all]

/-- Nothing is resolved exactly if no role gets a range. -/
theorem resolvesNothing_iff {ranges : ResolvedRanges} :
    ranges.isEmpty = true ↔ ∀ role, ranges.get role = none := by
  rw [ResolvedRanges.isEmpty, Bool.and_eq_true, Option.isNone_iff_eq_none,
    Option.isNone_iff_eq_none]
  constructor
  · rintro ⟨no_public, no_internal⟩ role
    cases role with
    | publicSide => exact no_public
    | internalSide => exact no_internal
  · intro nothing
    exact ⟨nothing .publicSide, nothing .internalSide⟩

theorem get_of_isEmpty {ranges : ResolvedRanges} (empty : ranges.isEmpty = true)
    (role : PoolRole) : ranges.get role = none :=
  resolvesNothing_iff.mp empty role

/-- Something is resolved exactly if a role gets a range. -/
theorem resolvesSomething_iff {ranges : ResolvedRanges} :
    ranges.isEmpty = false ↔ ∃ role range, ranges.get role = some range := by
  rw [← Bool.not_eq_true, resolvesNothing_iff, not_forall]
  exact exists_congr fun role => Option.ne_none_iff_exists'

/-- What is made of each role in the list is made of the public side, and then of the other. -/
theorem flatMap_toList {α : Type} (ranges : ResolvedRanges)
    (each : PoolRole × String → List α) :
    ranges.toList.flatMap each =
      ((ranges.get .publicSide).elim [] fun range => each (.publicSide, range)) ++
        (ranges.get .internalSide).elim [] fun range => each (.internalSide, range) := by
  rcases ranges with ⟨_ | publicRange, _ | internalRange⟩ <;>
    simp [ResolvedRanges.toList, PoolRole.all, ResolvedRanges.get]

/-- The resources that are worked on are those that are to be there. -/
theorem wanted_eq (reconciler : PoolReconciler) :
    reconciler.wanted =
      reconciler.resolvedRanges.toList.flatMap (roleResources reconciler.names) := by
  have each : ∀ role range?, wantedFor reconciler.names role range? =
      Option.elim range? [] fun range => roleResources reconciler.names (role, range) := by
    intro role range?
    cases range? <;> rfl
  rw [wanted, each, each, flatMap_toList]

theorem toList_roles_differ (ranges : ResolvedRanges) :
    ranges.toList.Pairwise fun first second => first.1 ≠ second.1 := by
  rcases ranges with ⟨_ | publicRange, _ | internalRange⟩ <;>
    simp [ResolvedRanges.toList, PoolRole.all, ResolvedRanges.get]

theorem pool_mem_wanted {reconciler : PoolReconciler} {role : PoolRole} {range : String}
    (given : reconciler.resolvedRanges.get role = some range) :
    poolResource reconciler.names role range ∈ reconciler.wanted := by
  rw [wanted_eq, List.mem_flatMap]
  exact ⟨(role, range), mem_toList.mpr given, List.mem_cons_self⟩

theorem advertisement_mem_wanted {reconciler : PoolReconciler} {role : PoolRole} {range : String}
    (given : reconciler.resolvedRanges.get role = some range) :
    advertisementResource reconciler.names role ∈ reconciler.wanted := by
  rw [wanted_eq, List.mem_flatMap]
  exact ⟨(role, range), mem_toList.mpr given, List.mem_cons_of_mem _ List.mem_cons_self⟩

/-- A resource is wanted only as the pool or the advertisement of a role with a range. -/
theorem eq_of_mem_wanted {reconciler : PoolReconciler} {resource : Resource}
    (member : resource ∈ reconciler.wanted) :
    ∃ role range, reconciler.resolvedRanges.get role = some range ∧
      (resource = poolResource reconciler.names role range ∨
        resource = advertisementResource reconciler.names role) := by
  rw [wanted_eq, List.mem_flatMap] at member
  rcases member with ⟨⟨role, range⟩, listed, member⟩
  refine ⟨role, range, mem_toList.mp listed, ?_⟩
  simpa [roleResources] using member

/-- Names that are accepted keep the pools and the advertisements of the two roles apart. -/
theorem names_differ {names : IsolationNames} (usable : names.validate = .ok ()) :
    names.publicPool ≠ names.internalPool ∧
      names.publicAdvertisement ≠ names.internalAdvertisement := by
  rw [IsolationNames.validate] at usable
  split at usable
  · cases usable
  · split at usable
    · cases usable
    · split at usable
      · cases usable
      · constructor <;> assumption

theorem pool_injective {names : IsolationNames} (usable : names.validate = .ok ())
    {first second : PoolRole} (same : names.pool first = names.pool second) : first = second := by
  rcases names_differ usable with ⟨pools_differ, -⟩
  cases first with
  | publicSide =>
      cases second with
      | publicSide => rfl
      | internalSide => exact absurd same pools_differ
  | internalSide =>
      cases second with
      | publicSide => exact absurd same.symm pools_differ
      | internalSide => rfl

theorem advertisement_injective {names : IsolationNames} (usable : names.validate = .ok ())
    {first second : PoolRole} (same : names.advertisement first = names.advertisement second) :
    first = second := by
  rcases names_differ usable with ⟨-, advertisements_differ⟩
  cases first with
  | publicSide =>
      cases second with
      | publicSide => rfl
      | internalSide => exact absurd same advertisements_differ
  | internalSide =>
      cases second with
      | publicSide => exact absurd same.symm advertisements_differ
      | internalSide => rfl

/-- Resources of different roles have different keys. -/
theorem roles_apart {names : IsolationNames} (usable : names.validate = .ok ())
    {first second : PoolRole × String} (different : first.1 ≠ second.1) :
    List.Disjoint ((roleResources names first).map fun resource => resource.target.key)
      ((roleResources names second).map fun resource => resource.target.key) := by
  intro key first_has second_has
  simp only [roleResources, List.map_cons, List.map_nil, List.mem_cons, List.not_mem_nil,
    or_false] at first_has second_has
  rcases first_has with rfl | rfl
  · rcases second_has with same | same
    · have same_pool := ResourceTarget.name_eq_of_key_eq (poolResource names first.1 first.2).target
        (poolResource names second.1 second.2).target rfl same
      exact different (pool_injective usable same_pool)
    · cases ResourceTarget.kind_eq_of_key_eq same
  · rcases second_has with same | same
    · cases ResourceTarget.kind_eq_of_key_eq same
    · have same_advertisement := ResourceTarget.name_eq_of_key_eq
        (advertisementResource names first.1).target (advertisementResource names second.1).target
        rfl same
      exact different (advertisement_injective usable same_advertisement)

theorem wanted_keys_nodup {reconciler : PoolReconciler}
    (usable : reconciler.names.validate = .ok ()) :
    (reconciler.wanted.map fun resource => resource.target.key).Nodup := by
  rw [wanted_eq, List.map_flatMap, List.nodup_flatMap]
  constructor
  · intro entry _
    simp [roleResources, poolKey, advertisementKey]
  · refine (toList_roles_differ reconciler.resolvedRanges).imp ?_
    intro first second different
    exact roles_apart usable different

/-! ## One resource -/

section

variable {resource : Resource} {simulation : Simulation}

theorem createOrReplace_created (willing : simulation.balancer.failCreate = false)
    (absent : simulation.balancer.resource? resource.target.key = none) :
    createOrReplace Simulation.loadBalancer () resource simulation =
      (.created, ⟨(simulation.balancer.put resource.target.key resource).logged
        (.create resource.kind resource.name), simulation.fabric⟩) := by
  have created := SimulatedBalancer.create_accepted willing absent
  simp only [createOrReplace, run_bind, Simulation.run_create, created, run_pure]

/-- A resource that cannot be created is replaced. -/
theorem createOrReplace_updated
    (obstacle : simulation.balancer.failCreate = true ∨
      (simulation.balancer.resource? resource.target.key).isSome = true)
    (willing : resource.name ∉ simulation.balancer.failingReplace)
    (present : (simulation.balancer.resource? resource.target.key).isSome = true) :
    createOrReplace Simulation.loadBalancer () resource simulation =
      (.updated, ⟨((simulation.balancer.logged (.create resource.kind resource.name)).put
        resource.target.key resource).logged (.replace resource.kind resource.name),
        simulation.fabric⟩) := by
  rcases SimulatedBalancer.create_rejected obstacle with ⟨error, rejected⟩
  have replaced : SimulatedBalancer.replace resource.target resource
      (simulation.balancer.logged (.create resource.kind resource.name)) = _ :=
    SimulatedBalancer.replace_accepted resource willing present
  simp only [createOrReplace, run_bind, Simulation.run_create, rejected, run_note,
    Simulation.record_eq, Simulation.run_replace, replaced, run_pure]
  rfl

theorem createOrReplace_failed
    (obstacle : simulation.balancer.failCreate = true ∨
      (simulation.balancer.resource? resource.target.key).isSome = true)
    (refused : resource.name ∈ simulation.balancer.failingReplace ∨
      (simulation.balancer.resource? resource.target.key).isSome = false) :
    ∃ reason after, createOrReplace Simulation.loadBalancer () resource simulation =
      (.failed reason, after) := by
  rcases SimulatedBalancer.create_rejected obstacle with ⟨error, rejected⟩
  have refusal : ∃ replace_error, SimulatedBalancer.replace resource.target resource
      (simulation.balancer.logged (.create resource.kind resource.name)) =
        (.error replace_error, _) :=
    SimulatedBalancer.replace_rejected resource refused
  rcases refusal with ⟨replace_error, refusal⟩
  simp only [createOrReplace, run_bind, Simulation.run_create, rejected, run_note,
    Simulation.record_eq, Simulation.run_replace, refusal, run_pure]
  exact ⟨_, _, rfl⟩

/-- Unless a resource failed, it is in place, and the backends are otherwise as they were. -/
theorem createOrReplace_keeps
    (succeeded : (createOrReplace Simulation.loadBalancer () resource simulation).1.isFailure =
      false) :
    (createOrReplace Simulation.loadBalancer () resource simulation).2.unlogged =
      simulation.unlogged.keep [resource] := by
  by_cases obstacle : simulation.balancer.failCreate = true ∨
      (simulation.balancer.resource? resource.target.key).isSome = true
  · by_cases refused : resource.name ∈ simulation.balancer.failingReplace ∨
        (simulation.balancer.resource? resource.target.key).isSome = false
    · rcases createOrReplace_failed obstacle refused with ⟨reason, after, failed⟩
      rw [failed] at succeeded
      cases succeeded
    · rw [not_or, Bool.not_eq_false] at refused
      rw [createOrReplace_updated obstacle refused.1 refused.2]
      rfl
  · rw [not_or, Bool.not_eq_true, Option.not_isSome_iff_eq_none] at obstacle
    rw [createOrReplace_created obstacle.1 obstacle.2]
    rfl

theorem applyResource_keeps
    (succeeded : (applyResource Simulation.loadBalancer () resource simulation).1.1 = none) :
    (applyResource Simulation.loadBalancer () resource simulation).2.unlogged =
      simulation.unlogged.keep [resource] := by
  apply createOrReplace_keeps
  rw [applyResource, run_bind] at succeeded
  cases outcome : (createOrReplace Simulation.loadBalancer () resource simulation).1 with
  | failed reason =>
      rw [outcome] at succeeded
      cases succeeded
  | created => rfl
  | updated => rfl
  | updateUnsupported reason => rfl

/-- A resource that is in place is updated, to what it is. -/
theorem applyResource_settled
    (present : simulation.balancer.resource? resource.target.key = some resource)
    (willing : resource.name ∉ simulation.balancer.failingReplace) :
    (applyResource Simulation.loadBalancer () resource simulation).1 =
        (none, [(resource.kind, resource.name, .updated)]) ∧
      (applyResource Simulation.loadBalancer () resource simulation).2.unlogged =
        simulation.unlogged := by
  have is_present : (simulation.balancer.resource? resource.target.key).isSome = true := by
    rw [present]
    rfl
  have run := createOrReplace_updated (.inr is_present) willing is_present
  have result : (applyResource Simulation.loadBalancer () resource simulation).1 =
      (none, [(resource.kind, resource.name, .updated)]) := by
    simp only [applyResource, run_bind, run, run_pure]
  refine ⟨result, ?_⟩
  rw [applyResource_keeps (congrArg Prod.fst result)]
  apply Simulation.keep_of_resource?
  intro other member
  rw [List.mem_singleton.mp member]
  exact present

end

/-! ## Roles and annotations -/

/-- The note about a role is not part of what it comes to. -/
theorem run_applyRole (names : IsolationNames) (entry : PoolRole × String)
    (simulation : Simulation) :
    applyRole names Simulation.loadBalancer () entry simulation =
      untilFailure (applyResource Simulation.loadBalancer ()) (roleResources names entry)
        simulation := by
  rcases entry with ⟨role, range⟩
  rw [applyRole]
  simp only [run_bind, run_ite, run_pure, run_note, Simulation.record_eq]
  split <;> rfl

theorem applyRole_keeps {names : IsolationNames} {entry : PoolRole × String}
    {simulation : Simulation}
    (succeeded : (applyRole names Simulation.loadBalancer () entry simulation).1.1 = none) :
    (applyRole names Simulation.loadBalancer () entry simulation).2.unlogged =
      simulation.unlogged.keep (roleResources names entry) := by
  rw [run_applyRole] at succeeded ⊢
  have each : ∀ resource state,
      (applyResource Simulation.loadBalancer () resource state).1.1 = none →
        (applyResource Simulation.loadBalancer () resource state).2.unlogged =
          state.unlogged.keep [resource] := by
    intro resource state
    exact applyResource_keeps
  have kept := untilFailure_adds Simulation.unlogged Simulation.keep_nil Simulation.keep_append
    each succeeded
  rw [List.flatMap_singleton'] at kept
  exact kept

/-- What is reported about a resource that was there already. -/
def updateOf (resource : Resource) : ResourceKind × String × MutationOutcome :=
  (resource.kind, resource.name, .updated)

/-- Whether the resources are in place and none of them is refused when it is replaced. -/
def Settled (resources : List Resource) (simulation : Simulation) : Prop :=
  ∀ resource ∈ resources,
    simulation.balancer.resource? resource.target.key = some resource ∧
      resource.name ∉ simulation.balancer.failingReplace

theorem Settled.of_unlogged {resources : List Resource} {first second : Simulation}
    (settled : Settled resources first) (same : second.unlogged = first.unlogged) :
    Settled resources second := by
  intro resource member
  rcases settled resource member with ⟨present, willing⟩
  constructor
  · change second.unlogged.balancer.resource? resource.target.key = some resource
    rw [same]
    exact present
  · change resource.name ∉ second.unlogged.balancer.failingReplace
    rw [same]
    exact willing

theorem applyRole_settled {names : IsolationNames} {entry : PoolRole × String}
    {simulation : Simulation} (settled : Settled (roleResources names entry) simulation) :
    (applyRole names Simulation.loadBalancer () entry simulation).1 =
        (none, (roleResources names entry).map updateOf) ∧
      (applyRole names Simulation.loadBalancer () entry simulation).2.unlogged =
        simulation.unlogged := by
  rw [run_applyRole, List.map_eq_flatMap]
  refine untilFailure_settled Simulation.unlogged ?_ rfl
  intro resource member state same
  rcases settled.of_unlogged same resource member with ⟨present, willing⟩
  rw [← same]
  exact applyResource_settled present willing

theorem annotateService_inspects (names : IsolationNames) (model : String)
    (deployed : List String) (service : AnnotatedService) :
    Inspects Simulation.unlogged
      (annotateService names (Simulation.networkFabric model) deployed service) := by
  have quiet : ∀ entry simulation, Simulation.unlogged (Journal.record entry simulation) =
      simulation.unlogged := fun _ _ => rfl
  rw [annotateService]
  split
  · refine (Simulation.inspects_setApplicationConfig model _ _ _).bind ?_
    intro reply
    cases reply with
    | error error => exact inspects_pure _
    | ok output => exact (inspects_note quiet _ _ _).bind fun _ => inspects_pure _
  · exact (inspects_note quiet _ _ _).bind fun _ => inspects_pure _

/-- Annotating looks at the backends and changes nothing but the calls. -/
theorem annotateServices_inspects (names : IsolationNames) (model : String) :
    Inspects Simulation.unlogged (annotateServices names (Simulation.networkFabric model)) := by
  refine (Simulation.inspects_listApplications model).bind ?_
  intro reply
  cases reply with
  | error error => exact inspects_pure _
  | ok deployed =>
      exact untilFailure_inspects (annotateService_inspects names model deployed) names.services

/-! ## The whole application -/

section

variable {reconciler : PoolReconciler} {model : String} {held : Option Unit}
  {simulation : Simulation}

/-- Working on the roles one after the other. -/
def applyRoles (reconciler : PoolReconciler) :
    StateM Simulation (Option String × List (ResourceKind × String × MutationOutcome)) :=
  untilFailure (applyRole reconciler.names Simulation.loadBalancer ())
    reconciler.resolvedRanges.toList

theorem applyRoles_keeps (succeeded : (reconciler.applyRoles simulation).1.1 = none) :
    (reconciler.applyRoles simulation).2.unlogged =
      simulation.unlogged.keep reconciler.wanted := by
  rw [wanted_eq]
  have each : ∀ entry state,
      (applyRole reconciler.names Simulation.loadBalancer () entry state).1.1 = none →
        (applyRole reconciler.names Simulation.loadBalancer () entry state).2.unlogged =
          state.unlogged.keep (roleResources reconciler.names entry) := by
    intro entry state
    exact applyRole_keeps
  exact untilFailure_adds Simulation.unlogged Simulation.keep_nil Simulation.keep_append each
    succeeded

theorem applyRoles_settled (settled : Settled reconciler.wanted simulation) :
    (reconciler.applyRoles simulation).1 = (none, reconciler.wanted.map updateOf) ∧
      (reconciler.applyRoles simulation).2.unlogged = simulation.unlogged := by
  rw [wanted_eq] at settled ⊢
  rw [List.map_flatMap]
  refine untilFailure_settled Simulation.unlogged ?_ rfl
  intro entry member state same
  rw [← same]
  apply applyRole_settled
  intro resource of_role
  exact settled.of_unlogged same resource (List.mem_flatMap.mpr ⟨entry, member, of_role⟩)

/-- The handle that is held is used, and otherwise there has to be a connection. -/
theorem connect_spec (held : Option Unit) (simulation : Simulation) :
    ((connect Simulation.loadBalancer held simulation).1 = .ok () ↔
        held = none → simulation.balancer.unavailable = false) ∧
      (connect Simulation.loadBalancer held simulation).2.unlogged = simulation.unlogged := by
  cases held with
  | some handle => simp [connect]
  | none =>
      rw [connect, Simulation.run_connect]
      refine ⟨?_, rfl⟩
      cases simulation.balancer.unavailable <;> simp

/-- One application on simulated backends. -/
def simulate (reconciler : PoolReconciler) (model : String) (held : Option Unit)
    (simulation : Simulation) : (StepOutcome × PoolProgress Unit) × Simulation :=
  reconciler.apply Simulation.loadBalancer (Simulation.networkFabric model) held simulation

/-- The annotations of one application. -/
def annotate (reconciler : PoolReconciler) (model : String) :
    StateM Simulation (Option String × List String) :=
  annotateServices reconciler.names (Simulation.networkFabric model)

/-- Where the roles are worked on, after connecting. -/
def connected (held : Option Unit) (simulation : Simulation) : Simulation :=
  (connect Simulation.loadBalancer held simulation).2

theorem applyWith_of_failed (model : String) {reason : String}
    (failed : (reconciler.applyRoles simulation).1.1 = some reason) :
    (reconciler.applyWith Simulation.loadBalancer (Simulation.networkFabric model) ()
      simulation).1.1 = some reason := by
  rw [applyWith, run_bind, ← applyRoles]
  rcases run : reconciler.applyRoles simulation with ⟨⟨failure, outcomes⟩, after⟩
  rw [run] at failed
  cases failed
  rfl

theorem applyWith_of_succeeded (succeeded : (reconciler.applyRoles simulation).1.1 = none) :
    reconciler.applyWith Simulation.loadBalancer (Simulation.networkFabric model) () simulation =
      (((reconciler.annotate model (reconciler.applyRoles simulation).2).1.1,
        { handle := some (), outcomes := (reconciler.applyRoles simulation).1.2,
          annotated := (reconciler.annotate model (reconciler.applyRoles simulation).2).1.2 }),
        (reconciler.annotate model (reconciler.applyRoles simulation).2).2) := by
  rw [applyWith, run_bind, ← applyRoles]
  rcases run : reconciler.applyRoles simulation with ⟨⟨failure, outcomes⟩, after⟩
  rw [run] at succeeded
  cases succeeded
  rfl

/-- What one application comes to, once there is a handle. -/
theorem simulate_of_handle (resolved : reconciler.resolvedRanges.isEmpty = false)
    (handled : (connect Simulation.loadBalancer held simulation).1 = .ok ()) :
    reconciler.simulate model held simulation =
      match reconciler.applyWith Simulation.loadBalancer (Simulation.networkFabric model) ()
        (connected held simulation) with
      | ((none, progress), after) => ((.completed, progress), after)
      | ((some reason, progress), after) =>
        ((.failed (Text.oneLine reason), progress), after) := by
  rw [simulate, apply, resolved, run_ite, if_neg Bool.false_ne_true, run_bind, handled,
    ← connected]
  rcases run : reconciler.applyWith Simulation.loadBalancer (Simulation.networkFabric model) ()
    (connected held simulation) with ⟨⟨_ | reason, progress⟩, after⟩
  · simp only [run_bind, run, run_pure]
  · simp only [run_bind, run, run_pure, run_note, Simulation.record_eq]

theorem simulate_of_refusal (resolved : reconciler.resolvedRanges.isEmpty = false)
    {error : BackendError}
    (refused : (connect Simulation.loadBalancer held simulation).1 = .error error) :
    (reconciler.simulate model held simulation).1.1 = .failed (Text.oneLine error.message) := by
  rw [simulate, apply, resolved, run_ite, if_neg Bool.false_ne_true, run_bind, refused]
  rfl

/-- A completed application had a handle and went through both stages without a failure. -/
theorem of_simulate_completed (resolved : reconciler.resolvedRanges.isEmpty = false)
    (completed : (reconciler.simulate model held simulation).1.1 = .completed) :
    (connect Simulation.loadBalancer held simulation).1 = .ok () ∧
      (reconciler.applyRoles (connected held simulation)).1.1 = none ∧
      (reconciler.annotate model (reconciler.applyRoles (connected held simulation)).2).1.1 =
        none := by
  cases handled : (connect Simulation.loadBalancer held simulation).1 with
  | error error =>
      rw [simulate_of_refusal resolved handled] at completed
      cases completed
  | ok handle =>
      rw [simulate_of_handle resolved handled] at completed
      cases applied : (reconciler.applyRoles (connected held simulation)).1.1 with
      | some reason =>
          have failed := applyWith_of_failed model applied
          rcases run : reconciler.applyWith Simulation.loadBalancer
            (Simulation.networkFabric model) () (connected held simulation) with
            ⟨⟨failure, progress⟩, after⟩
          rw [run] at failed completed
          cases failed
          cases completed
      | none =>
          rw [applyWith_of_succeeded applied] at completed
          cases annotated : (reconciler.annotate model
            (reconciler.applyRoles (connected held simulation)).2).1.1 with
          | some reason =>
              rw [annotated] at completed
              cases completed
          | none => exact ⟨rfl, rfl, rfl⟩

/-- An application without a failure, and what it comes to. -/
theorem simulate_of_succeeded (resolved : reconciler.resolvedRanges.isEmpty = false)
    (handled : (connect Simulation.loadBalancer held simulation).1 = .ok ())
    (applied : (reconciler.applyRoles (connected held simulation)).1.1 = none)
    (annotated : (reconciler.annotate model
      (reconciler.applyRoles (connected held simulation)).2).1.1 = none) :
    (reconciler.simulate model held simulation).1.1 = .completed ∧
      (reconciler.simulate model held simulation).1.2.outcomes =
        (reconciler.applyRoles (connected held simulation)).1.2 ∧
      (reconciler.simulate model held simulation).2 =
        (reconciler.annotate model (reconciler.applyRoles (connected held simulation)).2).2 := by
  rw [simulate_of_handle resolved handled, applyWith_of_succeeded applied, annotated]
  exact ⟨rfl, rfl, rfl⟩

/-! ## Convergence -/

/-- What a completed application leaves in the load balancer. -/
structure Converged (reconciler : PoolReconciler) (before after : Simulation) : Prop where
  /-- The pool has its name in the namespace, and the addresses are those of the range. -/
  pool_is_there : ∀ role range, reconciler.resolvedRanges.get role = some range →
    after.balancer.resource? (poolKey reconciler.names role) =
      some ⟨.addressPool, reconciler.names.pool role, reconciler.names.resourceNamespace,
        .object [("addresses", .array ((addressList range).map .string))]⟩
  /-- The advertisement is for exactly one pool. -/
  advertisement_is_there : ∀ role range, reconciler.resolvedRanges.get role = some range →
    after.balancer.resource? (advertisementKey reconciler.names role) =
      some ⟨.advertisement, reconciler.names.advertisement role,
        reconciler.names.resourceNamespace,
        .object [("ipAddressPools", .array [.string (reconciler.names.pool role)])]⟩
  others_are_kept : ∀ key,
    (∀ role range, reconciler.resolvedRanges.get role = some range →
      key ≠ poolKey reconciler.names role ∧ key ≠ advertisementKey reconciler.names role) →
    after.balancer.resource? key = before.balancer.resource? key

/-- What is reported about a role: that both resources were there, if it has a range. -/
def updatesFor (names : IsolationNames) (role : PoolRole) :
    Option String → List (ResourceKind × String × MutationOutcome)
  | none => []
  | some _ =>
    [(.addressPool, names.pool role, .updated),
      (.advertisement, names.advertisement role, .updated)]

/-- What an application comes to when everything is in place already. -/
structure Repeated (reconciler : PoolReconciler) (before : Simulation)
    (run : (StepOutcome × PoolProgress Unit) × Simulation) : Prop where
  completes : run.1.1 = .completed
  updates_all : run.1.2.outcomes =
    updatesFor reconciler.names .publicSide (reconciler.resolvedRanges.get .publicSide) ++
      updatesFor reconciler.names .internalSide (reconciler.resolvedRanges.get .internalSide)
  resources_stay : run.2.balancer.resources = before.balancer.resources

theorem updates_of_wanted (reconciler : PoolReconciler) :
    reconciler.wanted.map updateOf =
      updatesFor reconciler.names .publicSide (reconciler.resolvedRanges.get .publicSide) ++
        updatesFor reconciler.names .internalSide
          (reconciler.resolvedRanges.get .internalSide) := by
  have each : ∀ role range?, (wantedFor reconciler.names role range?).map updateOf =
      updatesFor reconciler.names role range? := by
    intro role range?
    cases range? <;> rfl
  rw [wanted, List.map_append, each, each]

/-- After a completed application the resources that are wanted have been put in place. -/
theorem simulate_keeps (resolved : reconciler.resolvedRanges.isEmpty = false)
    (completed : (reconciler.simulate model held simulation).1.1 = .completed) :
    (reconciler.simulate model held simulation).2.unlogged =
      simulation.unlogged.keep reconciler.wanted := by
  rcases of_simulate_completed resolved completed with ⟨handled, applied, annotated⟩
  rcases simulate_of_succeeded resolved handled applied annotated with ⟨-, -, final⟩
  have connecting : (connected held simulation).unlogged = simulation.unlogged :=
    (connect_spec held simulation).2
  have annotating := (annotateServices_inspects reconciler.names model
    (reconciler.applyRoles (connected held simulation)).2 _ rfl).2
  rw [final, annotate, annotating, applyRoles_keeps applied, connecting]

/-- What is found after the wanted resources have been put in place. -/
theorem resource?_of_keeps {after : Simulation}
    (kept : after.unlogged = simulation.unlogged.keep reconciler.wanted) (key : ResourceKey) :
    after.balancer.resource? key =
      (simulation.balancer.putAll reconciler.wanted).resource? key := by
  rw [← Simulation.unlogged_keep] at kept
  exact congrArg (fun state => state.balancer.resource? key) kept

theorem failingReplace_of_keeps {after : Simulation}
    (kept : after.unlogged = simulation.unlogged.keep reconciler.wanted) :
    after.balancer.failingReplace = simulation.balancer.failingReplace := by
  rw [← Simulation.unlogged_keep, Simulation.keep, SimulatedBalancer.putAll_eq] at kept
  exact congrArg (fun state => state.balancer.failingReplace) kept

theorem unavailable_of_keeps {after : Simulation}
    (kept : after.unlogged = simulation.unlogged.keep reconciler.wanted) :
    after.balancer.unavailable = simulation.balancer.unavailable := by
  rw [← Simulation.unlogged_keep, Simulation.keep, SimulatedBalancer.putAll_eq] at kept
  exact congrArg (fun state => state.balancer.unavailable) kept

theorem converged_of_keeps {after : Simulation} (usable : reconciler.names.validate = .ok ())
    (kept : after.unlogged = simulation.unlogged.keep reconciler.wanted) :
    reconciler.Converged simulation after := by
  have distinct := wanted_keys_nodup usable
  constructor
  · intro role range given
    rw [resource?_of_keeps kept]
    exact SimulatedBalancer.resource?_putAll_of_mem distinct _ (pool_mem_wanted given)
  · intro role range given
    rw [resource?_of_keeps kept]
    exact SimulatedBalancer.resource?_putAll_of_mem distinct _ (advertisement_mem_wanted given)
  · intro key foreign
    rw [resource?_of_keeps kept]
    apply SimulatedBalancer.resource?_putAll_of_ne
    intro resource member same
    rcases eq_of_mem_wanted member with ⟨role, range, given, rfl | rfl⟩
    · exact (foreign role range given).1 same.symm
    · exact (foreign role range given).2 same.symm

/-- Once put in place, the wanted resources are settled if none of them is refused. -/
theorem settled_of_keeps {after : Simulation} (usable : reconciler.names.validate = .ok ())
    (willing : ∀ role range, reconciler.resolvedRanges.get role = some range →
      reconciler.names.pool role ∉ simulation.balancer.failingReplace ∧
        reconciler.names.advertisement role ∉ simulation.balancer.failingReplace)
    (kept : after.unlogged = simulation.unlogged.keep reconciler.wanted) :
    Settled reconciler.wanted after := by
  intro resource member
  constructor
  · rw [resource?_of_keeps kept]
    exact SimulatedBalancer.resource?_putAll_of_mem (wanted_keys_nodup usable) _ member
  · rw [failingReplace_of_keeps kept]
    rcases eq_of_mem_wanted member with ⟨role, range, given, rfl | rfl⟩
    · exact (willing role range given).1
    · exact (willing role range given).2

/-- On settled resources an application that gets through the annotations only updates. -/
theorem repeated_of_settled (resolved : reconciler.resolvedRanges.isEmpty = false)
    (handled : held = none → simulation.balancer.unavailable = false)
    (settled : Settled reconciler.wanted simulation)
    (annotates : ∀ state : Simulation, state.unlogged = simulation.unlogged →
      (reconciler.annotate model state).1.1 = none) :
    reconciler.Repeated simulation (reconciler.simulate model held simulation) := by
  have connecting : (connected held simulation).unlogged = simulation.unlogged :=
    (connect_spec held simulation).2
  rcases applyRoles_settled (settled.of_unlogged connecting) with ⟨roles_result, roles_stay⟩
  have pooled_same :
      (reconciler.applyRoles (connected held simulation)).2.unlogged = simulation.unlogged := by
    rw [roles_stay, connecting]
  have roles_succeed : (reconciler.applyRoles (connected held simulation)).1.1 = none := by
    rw [roles_result]
  obtain ⟨completes, outcomes, -⟩ := simulate_of_succeeded resolved
    ((connect_spec held simulation).1.mpr handled) roles_succeed (annotates _ pooled_same)
  have stays : (reconciler.simulate model held simulation).2.unlogged = simulation.unlogged := by
    rw [simulate_keeps resolved completes]
    apply Simulation.keep_of_resource?
    intro resource member
    exact (settled resource member).1
  constructor
  · exact completes
  · rw [outcomes, roles_result]
    exact updates_of_wanted reconciler
  · exact congrArg (fun state => state.balancer.resources) stays

/--
A completed application has put the pool and the advertisement of every range in
place and has left every other resource alone.  A second application, with the
handle that is held or from the beginning, completes with nothing but updates and
changes no resource, unless replacing one of the names is refused.
-/
theorem apply_converges (usable : reconciler.names.validate = .ok ())
    (resolved : ∃ role range, reconciler.resolvedRanges.get role = some range)
    (completed : (reconciler.simulate model held simulation).1.1 = .completed) :
    reconciler.Converged simulation (reconciler.simulate model held simulation).2 ∧
      ((∀ role range, reconciler.resolvedRanges.get role = some range →
        reconciler.names.pool role ∉ simulation.balancer.failingReplace ∧
          reconciler.names.advertisement role ∉ simulation.balancer.failingReplace) →
      ∀ again, (again = none → held = none ∨ simulation.balancer.unavailable = false) →
        reconciler.Repeated (reconciler.simulate model held simulation).2
          (reconciler.simulate model again (reconciler.simulate model held simulation).2)) := by
  have resolved := resolvesSomething_iff.mpr resolved
  have kept := simulate_keeps resolved completed
  refine ⟨converged_of_keeps usable kept, ?_⟩
  intro willing again handle
  rcases of_simulate_completed resolved completed with ⟨handled, applied, annotated⟩
  have reached : again = none →
      (reconciler.simulate model held simulation).2.balancer.unavailable = false := by
    intro fresh
    rw [unavailable_of_keeps kept]
    rcases handle fresh with was_fresh | available
    · exact (connect_spec held simulation).1.mp handled was_fresh
    · exact available
  apply repeated_of_settled resolved reached (settled_of_keeps usable willing kept)
  -- The annotations went through before, in a state that differs in the calls alone.
  intro state same
  have pooled : (reconciler.applyRoles (connected held simulation)).2.unlogged =
      state.unlogged := by
    rw [applyRoles_keeps applied, same, kept]
    exact congrArg (Simulation.keep · reconciler.wanted) (connect_spec held simulation).2
  obtain ⟨same_annotations, -⟩ :=
    annotateServices_inspects reconciler.names model _ state pooled
  rw [annotate, ← same_annotations]
  exact annotated

end

/-- A reconciliation of both pools with one shared range. -/
def sharedPools : PoolReconciler :=
  ⟨true, ⟨none, none, some "10.20.0.0/24"⟩, {}⟩

/-- Backends that hold an outdated public pool and refuse to replace some other resource. -/
def outdatedPool : Simulation where
  balancer := {
    resources := [(poolKey {} .publicSide, poolResource {} .publicSide "192.0.2.0/24")]
    failingReplace := ["other-pool"] }
  fabric := { applications := ["traefik"] }

theorem apply_converges_over_outdated_pool :
    (sharedPools.simulate "openstack" none outdatedPool).1.1 = .completed ∧
      sharedPools.Converged outdatedPool
        (sharedPools.simulate "openstack" none outdatedPool).2 ∧
      sharedPools.Repeated (sharedPools.simulate "openstack" none outdatedPool).2
        (sharedPools.simulate "openstack" (some ())
          (sharedPools.simulate "openstack" none outdatedPool).2) := by
  have usable : sharedPools.names.validate = .ok () := by decide +kernel
  have resolved : ∃ role range, sharedPools.resolvedRanges.get role = some range :=
    ⟨.publicSide, "10.20.0.0/24", by decide +kernel⟩
  have completed : (sharedPools.simulate "openstack" none outdatedPool).1.1 = .completed := by
    decide +kernel
  have willing : ∀ role range, sharedPools.resolvedRanges.get role = some range →
      sharedPools.names.pool role ∉ outdatedPool.balancer.failingReplace ∧
        sharedPools.names.advertisement role ∉ outdatedPool.balancer.failingReplace := by
    intro role range _
    cases role <;> decide +kernel
  rcases apply_converges usable resolved completed with ⟨converged, repeats⟩
  exact ⟨completed, converged, repeats willing (some ()) (by intro fresh; cases fresh)⟩

end PoolReconciler

end NetworkIsolation.Reconcile
