import NetworkIsolation.Proofs.Backend.Simulation

/-!
# Spaces of a simulated fabric

What the operations on spaces do to a simulated fabric.  Each of them writes down
its call.  Adding a space that is absent and changing one that is there put the
subnets under its name, unless the fabric was told to refuse that, and a refusal
changes nothing else.
-/

namespace NetworkIsolation.Backend

open NetworkIsolation.Text

namespace SimulatedFabric

/-- The fabric with subnets put under the name of a space. -/
def putSpace (fabric : SimulatedFabric) (name : String) (subnets : List String) :
    SimulatedFabric :=
  { fabric with spaces := fabric.spaces.insert name subnets }

/-- The error of a space that is refused when it is added. -/
def addRefusal (name : String) : BackendError :=
  refused ("juju add-space " ++ name) "ERROR subnet already in use"

/-- The error of a fabric that does not list its spaces. -/
def listRefusal : BackendError :=
  refused "juju spaces" "ERROR cannot connect to controller"

@[simp]
theorem record_eq (entry : Note) (state : SimulatedFabric) :
    Journal.record entry state = state := rfl

theorem run_listSpaces (model : String) (state : SimulatedFabric) :
    (fabric model).listSpaces state =
      (if state.failListSpaces then .error listRefusal else .ok (sorted state.spaces.names),
        state.logged .listSpaces) := by
  change listSpaces state = _
  rw [listSpaces, run_bind, run_logCall, run_get_bind, run_ite_pure]
  rfl

theorem run_addSpace (model name : String) (subnets : List String) (state : SimulatedFabric) :
    (fabric model).addSpace name subnets state =
      if state.failingAdds.contains name then
        (.error (addRefusal name), state.logged (.addSpace name subnets))
      else if state.spaces.has name then
        (.error (refused ("juju add-space " ++ name)
          ("ERROR space \"" ++ name ++ "\" already exists")),
          state.logged (.addSpace name subnets))
      else
        (.ok (), (state.logged (.addSpace name subnets)).putSpace name subnets) := by
  change addSpace name subnets state = _
  rw [addSpace, run_bind, run_logCall, run_get_bind, run_ite, run_ite]
  rfl

theorem run_setSpaceSubnets (model name : String) (subnets : List String)
    (state : SimulatedFabric) :
    (fabric model).setSpaceSubnets name subnets state =
      if state.rejectUpdates then
        (.error (refused ("juju set-space-subnets " ++ name)
          "ERROR unrecognized command: juju set-space-subnets"),
          state.logged (.setSpaceSubnets name subnets))
      else if state.spaces.has name then
        (.ok (), (state.logged (.setSpaceSubnets name subnets)).putSpace name subnets)
      else
        (.error (refused ("juju set-space-subnets " ++ name)
          ("ERROR space \"" ++ name ++ "\" not found")),
          state.logged (.setSpaceSubnets name subnets)) := by
  change setSpaceSubnets name subnets state = _
  rw [setSpaceSubnets, run_bind, run_logCall, run_get_bind, run_ite, run_ite]
  rfl

theorem run_setModelConfig (model assignment : String) (state : SimulatedFabric) :
    (fabric model).setModelConfig assignment state =
      (if state.failModelConfig then
          .error (refused "juju model-config" "ERROR permission denied")
        else .ok (),
        state.logged (.setModelConfig assignment)) := by
  change setModelConfig assignment state = _
  rw [setModelConfig, run_bind, run_logCall, run_get_bind, run_ite_pure]
  rfl

end SimulatedFabric

end NetworkIsolation.Backend
