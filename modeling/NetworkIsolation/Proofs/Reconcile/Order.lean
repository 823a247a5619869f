import NetworkIsolation.Proofs.Backend.Independence
import NetworkIsolation.Proofs.Reconcile.Inheritance
import NetworkIsolation.Reconcile.Engine

/-!
# The order of the two steps

The reconciliation of spaces and that of pools use the same fabric, but neither of
them looks at anything that the other one changes.  So a plan with both steps may
have them in either order: it succeeds in both orders or in neither, and when it
succeeds the entries of the report and the final backends are the same.

A visit acts on its own part of the session because each operation of its step does.
What is left is to compare the two runs of the plan, in which the second step is
reached only if the first one has not failed.
-/

namespace NetworkIsolation.Reconcile

open NetworkIsolation.Backend NetworkIsolation.Configuration

variable {σ ν κ : Type} [Journal σ] {own : σ → ν} {other : σ → κ}

/-- Acting on a part of the state is inherited, if neither part shows notes. -/
theorem composes_actsOn (own_unseen : ∀ entry state, own (Journal.record entry state) = own state)
    (other_unseen : ∀ entry state, other (Journal.record entry state) = other state) :
    Composes fun _ (action : StateM σ _) => ActsOn own other action where
  pure value := actsOn_pure value
  bind acts follows := acts.bind follows
  note component level message := actsOn_note own_unseen other_unseen component level message

/-! ## The reconcilers on simulated backends -/

theorem spaceOperations_networkFabric (model : String) :
    SpaceOperations (fun _ action => ActsOn Simulation.spacesSide Simulation.poolsSide action)
      (Simulation.networkFabric model) where
  listSpaces := Simulation.actsOn_spaces (SimulatedFabric.actsOn_listSpaces model)
  addSpace name subnets :=
    Simulation.actsOn_spaces (SimulatedFabric.actsOn_addSpace model name subnets)
  setSpaceSubnets name subnets :=
    Simulation.actsOn_spaces (SimulatedFabric.actsOn_setSpaceSubnets model name subnets)
  setModelConfig assignment :=
    Simulation.actsOn_spaces (SimulatedFabric.actsOn_setModelConfig model assignment)

theorem applicationOperations_networkFabric (model : String) :
    ApplicationOperations
      (fun _ action => ActsOn Simulation.poolsSide Simulation.spacesSide action)
      (Simulation.networkFabric model) where
  listApplications :=
    Simulation.actsOn_applications (SimulatedFabric.actsOn_listApplications model)
  setApplicationConfig application assignment jsonOutput :=
    Simulation.actsOn_applications
      (SimulatedFabric.actsOn_setApplicationConfig model application assignment jsonOutput)

theorem balancerOperations_loadBalancer :
    BalancerOperations (fun _ action => ActsOn Simulation.poolsSide Simulation.spacesSide action)
      Simulation.loadBalancer where
  connect := Simulation.actsOn_balancer _
  create _ _ := Simulation.actsOn_balancer _
  replace _ _ _ := Simulation.actsOn_balancer _

/-! ## Visits in a session -/

namespace Session

/-- What the step that reconciles spaces works on. -/
def spacesSide (session : Session Simulation Unit) : SimulatedFabric :=
  session.world.spacesSide

/-- What the step that reconciles pools works on. -/
def poolsSide (session : Session Simulation Unit) :
    Option Unit × SimulatedBalancer × SimulatedFabric :=
  (session.handle, session.world.poolsSide)

theorem actsOn_spaces {α : Type} {action : StateM Simulation α}
    (acts : ActsOn Simulation.spacesSide Simulation.poolsSide action) :
    ActsOn spacesSide poolsSide (worldPart.lift action) where
  decided first second same := acts.decided first.world second.world same
  unnoticed session := congrArg (Prod.mk session.handle) (acts.unnoticed session.world)

/-- An action that gets the handle of the session and leaves one there. -/
theorem actsOn_pools {α β : Type} {action : Option Unit → StateM Simulation (α × β)}
    (acts : ∀ handle?, ActsOn Simulation.poolsSide Simulation.spacesSide (action handle?))
    (handle : β → Option Unit) :
    ActsOn poolsSide spacesSide (do
      let session ← get
      let (result, rest) ← worldPart.lift (action session.handle)
      modify fun session => { session with handle := handle rest }
      return result) where
  decided first second same := by
    rcases first with ⟨first, first_handle⟩
    rcases second with ⟨second, second_handle⟩
    obtain ⟨rfl, same_world⟩ :
        first_handle = second_handle ∧ first.poolsSide = second.poolsSide := Prod.mk.inj same
    rcases (acts first_handle).decided first second same_world with ⟨same_result, same_after⟩
    change (action first_handle first).1.1 = (action first_handle second).1.1 ∧
      (handle (action first_handle first).1.2, (action first_handle first).2.poolsSide) =
        (handle (action first_handle second).1.2, (action first_handle second).2.poolsSide)
    rw [same_result, same_after]
    exact ⟨rfl, rfl⟩
  unnoticed session := (acts session.handle).unnoticed session.world

theorem composes_spaces : Composes fun _ action => ActsOn spacesSide poolsSide action :=
  composes_actsOn (fun _ _ => rfl) fun _ _ => rfl

theorem composes_pools : Composes fun _ action => ActsOn poolsSide spacesSide action :=
  composes_actsOn (fun _ _ => rfl) fun _ _ => rfl

end Session

section

variable (model : String)

theorem actsOn_visit_spaces (reconciler : SpaceReconciler) :
    ActsOn Session.spacesSide Session.poolsSide
      (visitStep (fun _ => pure ())
        (spacesStep reconciler (Simulation.networkFabric model))) := by
  have applies : ActsOn Simulation.spacesSide Simulation.poolsSide
      (reconciler.apply (Simulation.networkFabric model)) :=
    SpaceReconciler.holds_apply (composes_actsOn (fun _ _ => rfl) fun _ _ => rfl)
      (spaceOperations_networkFabric model) reconciler
  refine holds_visitStep Session.composes_spaces ?_ ?_ ?_
  · exact actsOn_pure _
  · exact actsOn_pure _
  · exact (Session.actsOn_spaces applies).bind fun _ => actsOn_pure _

theorem actsOn_visit_pools (reconciler : PoolReconciler) :
    ActsOn Session.poolsSide Session.spacesSide
      (visitStep (fun _ => pure ())
        (poolsStep reconciler Simulation.loadBalancer (Simulation.networkFabric model))) := by
  have composes : Composes fun _ action =>
      ActsOn Simulation.poolsSide Simulation.spacesSide action :=
    composes_actsOn (fun _ _ => rfl) fun _ _ => rfl
  refine holds_visitStep Session.composes_pools ?_ ?_ ?_
  · exact Session.actsOn_pools
      (PoolReconciler.holds_isApplicable composes balancerOperations_loadBalancer reconciler) id
  · exact actsOn_pure _
  · exact Session.actsOn_pools
      (PoolReconciler.holds_apply composes balancerOperations_loadBalancer
        (applicationOperations_networkFabric model) reconciler) PoolProgress.handle

end

/-! ## Two steps in either order -/

/-- The entry of a visit has the name of the step. -/
theorem yields_visitStep (onApply : Step σ → StateM σ Unit) (step : Step σ) :
    Yields (visitStep onApply step) fun report => report.name = step.name := by
  refine Yields.after fun applicability => ?_
  cases applicability with
  | skipped reason => exact Yields.after fun _ => yields_pure rfl
  | failed reason => exact Yields.after fun _ => yields_pure rfl
  | ready =>
      refine Yields.after fun _ => Yields.after fun _ => Yields.after fun outcome => ?_
      cases outcome with
      | completed => exact yields_pure rfl
      | failed reason => exact Yields.after fun _ => yields_pure rfl

section

variable (first second : Step σ) (state : σ)

/-- The second of two steps is visited unless the first one fails. -/
theorem run_runPlan_pair :
    runPlan [first, second] state =
      let opening := visitStep (fun _ => pure ()) first state
      if opening.1.status = .failed then (⟨[opening.1]⟩, opening.2)
      else
        let closing := visitStep (fun _ => pure ()) second opening.2
        (⟨[opening.1, closing.1]⟩, closing.2) := by
  have alone : ∀ after : σ, runSteps (fun _ => pure ()) [second] after =
      ([(visitStep (fun _ => pure ()) second after).1],
        (visitStep (fun _ => pure ()) second after).2) := by
    intro after
    rw [runSteps_cons, runSteps]
    simp only [run_bind, run_ite, run_pure, ite_self]
  rw [runPlan, runPlanWith, runSteps_cons]
  simp only [run_bind, run_ite, run_pure, alone]
  split <;> rfl

/-- A plan of two steps succeeds if the first one does and the second one does after it. -/
theorem succeeded_runPlan_pair :
    (runPlan [first, second] state).1.succeeded = true ↔
      (visitStep (fun _ => pure ()) first state).1.status ≠ .failed ∧
        (visitStep (fun _ => pure ()) second
          (visitStep (fun _ => pure ()) first state).2).1.status ≠ .failed := by
  rw [run_runPlan_pair]
  by_cases fails : (visitStep (fun _ => pure ()) first state).1.status = .failed
  · simp [fails, PlanReport.succeeded]
  · simp [fails, PlanReport.succeeded]

end

/--
Two steps that act on parts of their own succeed in both orders or in neither.  If they
succeed, then the entries are the same in both orders, and so are the two parts in the end.
-/
theorem runPlan_swap {first second : Step σ}
    (first_acts : ActsOn own other (visitStep (fun _ => pure ()) first))
    (second_acts : ActsOn other own (visitStep (fun _ => pure ()) second)) (state : σ) :
    ((runPlan [first, second] state).1.succeeded = (runPlan [second, first] state).1.succeeded) ∧
      ((runPlan [first, second] state).1.succeeded = true →
        ∃ opening closing,
          opening.name = first.name ∧ closing.name = second.name ∧
          (runPlan [first, second] state).1.steps = [opening, closing] ∧
          (runPlan [second, first] state).1.steps = [closing, opening] ∧
          own (runPlan [first, second] state).2 = own (runPlan [second, first] state).2 ∧
          other (runPlan [first, second] state).2 = other (runPlan [second, first] state).2) := by
  rcases first_acts.after second_acts state with ⟨first_entry, first_part⟩
  rcases second_acts.after first_acts state with ⟨second_entry, second_part⟩
  constructor
  · rw [Bool.eq_iff_iff, succeeded_runPlan_pair, succeeded_runPlan_pair, first_entry, second_entry]
    exact and_comm
  · intro succeeded
    rw [succeeded_runPlan_pair, second_entry] at succeeded
    rcases succeeded with ⟨first_succeeds, second_succeeds⟩
    refine ⟨(visitStep (fun _ => pure ()) first state).1,
      (visitStep (fun _ => pure ()) second state).1,
      yields_visitStep _ first state, yields_visitStep _ second state, ?_⟩
    rw [run_runPlan_pair, run_runPlan_pair]
    simp only [first_succeeds, second_succeeds, if_false, first_entry, second_entry]
    refine ⟨trivial, trivial, ?_, ?_⟩
    -- Each part is left by its own visit, and the other visit does not touch it.
    · rw [second_acts.unnoticed, first_part]
    · rw [first_acts.unnoticed, second_part]

/--
The two reconcilers may come in either order.  From the same simulated backends, the
plan succeeds in both orders or in neither; and if it succeeds, then both reports have
the same entry for each step, and the final spaces and the final resources are the same.
-/
theorem run_reconcilers_swap (config : IsolationConfig) (names : IsolationNames) (model : String)
    (before : Simulation) :
    let fabric := Simulation.networkFabric model
    let spaces := spacesStep (.ofConfig config names.defaultSpace) fabric
    let pools := poolsStep (.ofConfig config names) Simulation.loadBalancer fabric
    let forward := Session.within (runPlan [spaces, pools]) before
    let backward := Session.within (runPlan [pools, spaces]) before
    forward.1.succeeded = backward.1.succeeded ∧
      (forward.1.succeeded = true →
        ∃ spaces_entry pools_entry : StepReport,
          spaces_entry.name = "spaces" ∧ pools_entry.name = "pools" ∧
          forward.1.steps = [spaces_entry, pools_entry] ∧
          backward.1.steps = [pools_entry, spaces_entry] ∧
          forward.2.fabric.spaces = backward.2.fabric.spaces ∧
          forward.2.balancer.resources = backward.2.balancer.resources) := by
  intro fabric spaces pools forward backward
  rcases runPlan_swap (actsOn_visit_spaces model (.ofConfig config names.defaultSpace))
    (actsOn_visit_pools model (.ofConfig config names)) ⟨before, none⟩ with ⟨same, agree⟩
  refine ⟨same, ?_⟩
  intro succeeded
  rcases agree succeeded with
    ⟨spaces_entry, pools_entry, spaces_name, pools_name, in_forward, in_backward, same_spaces,
      same_pools⟩
  refine ⟨spaces_entry, pools_entry, spaces_name, pools_name, in_forward, in_backward, ?_, ?_⟩
  · have same_after := congrArg SimulatedFabric.spaces same_spaces
    exact same_after
  · have same_after := congrArg (fun side => side.2.1.resources) same_pools
    exact same_after

end NetworkIsolation.Reconcile
