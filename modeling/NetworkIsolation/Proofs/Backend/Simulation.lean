import NetworkIsolation.Backend.SimulatedFabric
import NetworkIsolation.Proofs.Backend.Resources
import NetworkIsolation.Proofs.Backend.Running

/-!
# Simulated backends next to each other

A reconciler works on a load balancer and a fabric.  Here both are simulated, and
the state is the pair of theirs.  The simulated backends write down every call
but never look at what is written, so two states that differ in the calls alone
are the same to a reconciler: they are compared without their logs.
-/

namespace NetworkIsolation.Backend

open NetworkIsolation.Text

namespace SimulatedBalancer

/-! ## Operations of the load balancer -/

/-- The balancer with a call written down. -/
def logged (call : BalancerCall) (balancer : SimulatedBalancer) : SimulatedBalancer :=
  { balancer with calls := balancer.calls ++ [call] }

@[simp]
theorem run_logCall (call : BalancerCall) (balancer : SimulatedBalancer) :
    logCall call balancer = ((), balancer.logged call) := rfl

@[simp]
theorem logged_failCreate (call : BalancerCall) (balancer : SimulatedBalancer) :
    (balancer.logged call).failCreate = balancer.failCreate := rfl

@[simp]
theorem logged_failingReplace (call : BalancerCall) (balancer : SimulatedBalancer) :
    (balancer.logged call).failingReplace = balancer.failingReplace := rfl

@[simp]
theorem logged_resource? (call : BalancerCall) (balancer : SimulatedBalancer)
    (key : ResourceKey) : (balancer.logged call).resource? key = balancer.resource? key := rfl

theorem put_logged (call : BalancerCall) (balancer : SimulatedBalancer) (key : ResourceKey)
    (resource : Resource) :
    (balancer.logged call).put key resource = (balancer.put key resource).logged call := rfl

theorem connect_eq (balancer : SimulatedBalancer) :
    connect balancer =
      (if balancer.unavailable then .error (.unavailable "load-balancer API") else .ok (),
        balancer.logged .connect) := by
  rw [connect, run_bind, run_logCall, run_get_bind, run_ite_pure]
  rfl

/-- A resource is created where there is none, unless creating is refused. -/
theorem create_accepted {balancer : SimulatedBalancer} {resource : Resource}
    (willing : balancer.failCreate = false)
    (absent : balancer.resource? resource.target.key = none) :
    create resource balancer =
      (.ok (), (balancer.put resource.target.key resource).logged
        (.create resource.kind resource.name)) := by
  rw [create]
  simp [willing, absent, put_logged]

theorem create_rejected {balancer : SimulatedBalancer} {resource : Resource}
    (obstacle : balancer.failCreate = true ∨
      (balancer.resource? resource.target.key).isSome = true) :
    ∃ error, create resource balancer =
      (.error error, balancer.logged (.create resource.kind resource.name)) := by
  rw [create]
  rcases refusing : balancer.failCreate with _ | _
  · have present : (balancer.resource? resource.target.key).isSome = true := by
      simpa [refusing] using obstacle
    refine ⟨.api (resource.kind.word ++ " \"" ++ resource.name ++ "\" already exists"), ?_⟩
    simp [refusing, present]
  · refine ⟨.api ("create " ++ resource.kind.word ++ " " ++ resource.name ++ " rejected"), ?_⟩
    simp [refusing]

/-- A resource is replaced where there is one, unless replacing that name is refused. -/
theorem replace_accepted {balancer : SimulatedBalancer} {target : ResourceTarget}
    (resource : Resource) (willing : target.name ∉ balancer.failingReplace)
    (present : (balancer.resource? target.key).isSome = true) :
    replace target resource balancer =
      (.ok (), (balancer.put target.key resource).logged (.replace target.kind target.name)) := by
  rw [replace]
  simp [willing, present, put_logged]

theorem replace_rejected {balancer : SimulatedBalancer} {target : ResourceTarget}
    (resource : Resource)
    (obstacle : target.name ∈ balancer.failingReplace ∨
      (balancer.resource? target.key).isSome = false) :
    ∃ error, replace target resource balancer =
      (.error error, balancer.logged (.replace target.kind target.name)) := by
  rw [replace]
  by_cases refusing : target.name ∈ balancer.failingReplace
  · refine ⟨.api ("replace " ++ target.kind.word ++ " " ++ target.name ++ " rejected"), ?_⟩
    simp [refusing]
  · have absent : (balancer.resource? target.key).isSome = false := by
      simpa [refusing] using obstacle
    refine ⟨.api (target.kind.word ++ " \"" ++ target.name ++ "\" not found"), ?_⟩
    simp [refusing, absent]

end SimulatedBalancer

namespace SimulatedFabric

/-! ## Operations of the fabric -/

/-- The fabric with a call written down. -/
def logged (call : FabricCall) (fabric : SimulatedFabric) : SimulatedFabric :=
  { fabric with calls := fabric.calls ++ [call] }

@[simp]
theorem run_logCall (call : FabricCall) (fabric : SimulatedFabric) :
    logCall call fabric = ((), fabric.logged call) := rfl

theorem run_listApplications (fabric : SimulatedFabric) :
    listApplications fabric =
      (if fabric.failListApplications then
          .error (refused "juju status" "ERROR cannot connect to controller")
        else .ok (sorted fabric.applications),
        fabric.logged .listApplications) := by
  rw [listApplications, run_bind, run_logCall, run_get_bind, run_ite_pure]
  rfl

theorem run_setApplicationConfig (application assignment : String) (jsonOutput : Bool)
    (fabric : SimulatedFabric) :
    setApplicationConfig application assignment jsonOutput fabric =
      (if fabric.failingApplicationConfig.contains application ||
            !fabric.applications.contains application then
          .error (refused ("juju config " ++ application)
            ("ERROR application \"" ++ application ++ "\" not found"))
        else .ok "",
        fabric.logged (.setApplicationConfig application assignment jsonOutput)) := by
  rw [setApplicationConfig, run_bind, run_logCall, run_get_bind, run_ite_pure]
  rfl

end SimulatedFabric

/-! ## Both backends -/

/-- A simulated load balancer and a simulated fabric. -/
structure Simulation where
  balancer : SimulatedBalancer
  fabric : SimulatedFabric

namespace Simulation

def balancerPart : Part SimulatedBalancer Simulation where
  get := balancer
  set inner simulation := { simulation with balancer := inner }

def fabricPart : Part SimulatedFabric Simulation where
  get := fabric
  set inner simulation := { simulation with fabric := inner }

/-- Notes are not part of simulated backends. -/
instance : Journal Simulation where
  record _ simulation := simulation

@[simp]
theorem record_eq (entry : Note) (simulation : Simulation) :
    Journal.record entry simulation = simulation := rfl

/-- The simulated load balancer, used from the pair. -/
def loadBalancer : LoadBalancer Simulation Unit :=
  SimulatedBalancer.balancer.lift balancerPart

/-- The simulated fabric of a model, used from the pair. -/
def networkFabric (model : String) : Fabric Simulation :=
  (SimulatedFabric.fabric model).lift fabricPart

/-- Simulated backends without the calls that were written down. -/
def unlogged (simulation : Simulation) : Simulation :=
  ⟨{ simulation.balancer with calls := [] }, { simulation.fabric with calls := [] }⟩

/-- Simulated backends with resources put in place one after the other. -/
def keep (simulation : Simulation) (resources : List Resource) : Simulation :=
  { simulation with balancer := simulation.balancer.putAll resources }

@[simp]
theorem keep_nil (simulation : Simulation) : simulation.keep [] = simulation := rfl

theorem keep_append (simulation : Simulation) (first second : List Resource) :
    simulation.keep (first ++ second) = (simulation.keep first).keep second := by
  simp [keep, SimulatedBalancer.putAll_append]

/-- Resources that are all in place can be put again without any change. -/
theorem keep_of_resource? {simulation : Simulation} {resources : List Resource}
    (found : ∀ resource ∈ resources,
      simulation.balancer.resource? resource.target.key = some resource) :
    simulation.keep resources = simulation := by
  rw [keep, SimulatedBalancer.putAll_of_resource? found]

/-- What is put in place does not depend on the calls. -/
theorem unlogged_keep (simulation : Simulation) (resources : List Resource) :
    (simulation.keep resources).unlogged = simulation.unlogged.keep resources := by
  induction resources generalizing simulation with
  | nil => rfl
  | cons resource resources induction_hypothesis =>
      exact induction_hypothesis (simulation.keep [resource])

/-- Connecting succeeds unless the load balancer is unavailable. -/
theorem run_connect (simulation : Simulation) :
    loadBalancer.connect simulation =
      (if simulation.balancer.unavailable then .error (.unavailable "load-balancer API")
        else .ok (),
        { simulation with balancer := simulation.balancer.logged .connect }) := by
  change ((SimulatedBalancer.connect simulation.balancer).1,
    { simulation with balancer := (SimulatedBalancer.connect simulation.balancer).2 }) = _
  rw [SimulatedBalancer.connect_eq]

theorem run_create (resource : Resource) (simulation : Simulation) :
    loadBalancer.create () resource simulation =
      ((SimulatedBalancer.create resource simulation.balancer).1,
        { simulation with balancer :=
            (SimulatedBalancer.create resource simulation.balancer).2 }) := rfl

theorem run_replace (target : ResourceTarget) (resource : Resource) (simulation : Simulation) :
    loadBalancer.replace () target resource simulation =
      ((SimulatedBalancer.replace target resource simulation.balancer).1,
        { simulation with balancer :=
            (SimulatedBalancer.replace target resource simulation.balancer).2 }) := rfl

theorem run_listApplications (model : String) (simulation : Simulation) :
    (networkFabric model).listApplications simulation =
      (if simulation.fabric.failListApplications then
          .error (refused "juju status" "ERROR cannot connect to controller")
        else .ok (sorted simulation.fabric.applications),
        { simulation with fabric := simulation.fabric.logged .listApplications }) := by
  change ((SimulatedFabric.listApplications simulation.fabric).1,
    { simulation with fabric := (SimulatedFabric.listApplications simulation.fabric).2 }) = _
  rw [SimulatedFabric.run_listApplications]

theorem run_setApplicationConfig (model application assignment : String) (jsonOutput : Bool)
    (simulation : Simulation) :
    (networkFabric model).setApplicationConfig application assignment jsonOutput simulation =
      ((SimulatedFabric.setApplicationConfig application assignment jsonOutput
          simulation.fabric).1,
        { simulation with
          fabric := simulation.fabric.logged
            (.setApplicationConfig application assignment jsonOutput) }) := by
  have after := congrArg Prod.snd
    (SimulatedFabric.run_setApplicationConfig application assignment jsonOutput simulation.fabric)
  exact congrArg (fun fabric => (_, ({ simulation with fabric } : Simulation))) after

/-- An operation of the fabric that writes down its call and otherwise only looks. -/
theorem inspects_lift_fabric {α : Type} {action : StateM SimulatedFabric α} {call : FabricCall}
    {reply : SimulatedFabric → α}
    (run : ∀ fabric, action fabric = (reply fabric, fabric.logged call))
    (blind : ∀ fabric, reply fabric = reply { fabric with calls := [] }) :
    Inspects unlogged (fabricPart.lift action) := by
  intro first second same
  have same_fabric : { first.fabric with calls := [] } = { second.fabric with calls := [] } :=
    congrArg fabric same
  constructor
  · change (action first.fabric).1 = (action second.fabric).1
    rw [run, run, blind first.fabric, blind second.fabric, same_fabric]
  · change unlogged { first with fabric := (action first.fabric).2 } = first.unlogged
    rw [run]
    rfl

theorem inspects_listApplications (model : String) :
    Inspects unlogged (networkFabric model).listApplications :=
  inspects_lift_fabric SimulatedFabric.run_listApplications fun _ => rfl

theorem inspects_setApplicationConfig (model application assignment : String)
    (jsonOutput : Bool) :
    Inspects unlogged
      ((networkFabric model).setApplicationConfig application assignment jsonOutput) :=
  inspects_lift_fabric
    (SimulatedFabric.run_setApplicationConfig application assignment jsonOutput) fun _ => rfl

end Simulation

end NetworkIsolation.Backend
