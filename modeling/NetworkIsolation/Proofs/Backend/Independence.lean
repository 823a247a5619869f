import NetworkIsolation.Proofs.Backend.Spaces

/-!
# Actions on different parts of the backends

Two actions are independent if each works on its own part of the state: what it
reads there decides what it gives and what it leaves there, and the part of the
other action stays as it was.  Then it makes no difference which of them comes
first.

The parts need not be components of the state.  The fabric is shared, and the
operations on spaces and those on applications are told apart by the settings that
they look at.  The calls that were written down belong to neither part.
-/

namespace NetworkIsolation.Backend

variable {σ ν κ α β : Type} {own : σ → ν} {other : σ → κ}

/-- The action works on its own part of the state and leaves the other part alone. -/
structure ActsOn (own : σ → ν) (other : σ → κ) (action : StateM σ α) : Prop where
  decided : ∀ first second, own first = own second →
    (action first).1 = (action second).1 ∧ own (action first).2 = own (action second).2
  unnoticed : ∀ state, other (action state).2 = other state

theorem actsOn_pure (value : α) : ActsOn own other (pure value) where
  decided _ _ same := ⟨rfl, same⟩
  unnoticed _ := rfl

theorem ActsOn.bind {action : StateM σ α} {next : α → StateM σ β}
    (acts : ActsOn own other action) (follows : ∀ value, ActsOn own other (next value)) :
    ActsOn own other (action >>= next) where
  decided first second same := by
    rcases acts.decided first second same with ⟨same_result, same_part⟩
    rw [run_bind, run_bind, ← same_result]
    exact (follows (action first).1).decided _ _ same_part
  unnoticed state := by
    rw [run_bind, (follows (action state).1).unnoticed, acts.unnoticed]

/-- Notes belong to neither part, if neither of them shows notes. -/
theorem actsOn_note [Journal σ]
    (own_unseen : ∀ entry state, own (Journal.record entry state) = own state)
    (other_unseen : ∀ entry state, other (Journal.record entry state) = other state)
    (component : Component) (level : Level) (message : String) :
    ActsOn own other (note component level message) where
  decided first second same := by
    constructor
    · rfl
    · rw [run_note, run_note, own_unseen, own_unseen, same]
  unnoticed state := other_unseen _ state

/-- It is enough to look at the states that have nothing but the action's own part. -/
theorem ActsOn.of_reduced {own : σ → σ} {action : StateM σ α}
    (result : ∀ state, (action state).1 = (action (own state)).1)
    (effect : ∀ state, own (action state).2 = own (action (own state)).2)
    (unnoticed : ∀ state, other (action state).2 = other state) : ActsOn own other action where
  decided first second same := by
    constructor
    · rw [result first, result second, same]
    · rw [effect first, effect second, same]
  unnoticed := unnoticed

/-- An independent action that comes first changes nothing for the action. -/
theorem ActsOn.after {action : StateM σ α} {earlier : StateM σ β}
    (acts : ActsOn own other action) (independent : ActsOn other own earlier) (state : σ) :
    (action (earlier state).2).1 = (action state).1 ∧
      own (action (earlier state).2).2 = own (action state).2 :=
  acts.decided _ _ (independent.unnoticed state)

/-! ## The two parts of the simulated backends -/

namespace SimulatedFabric

/-- What the operations on spaces look at. -/
def spacesSide (fabric : SimulatedFabric) : SimulatedFabric :=
  { fabric with
    applications := []
    failingApplicationConfig := []
    failListApplications := false
    calls := [] }

/-- What the operations on applications look at. -/
def applicationsSide (fabric : SimulatedFabric) : SimulatedFabric :=
  { fabric with
    spaces := []
    failingAdds := []
    rejectUpdates := false
    failListSpaces := false
    failModelConfig := false
    calls := [] }

@[simp]
theorem spacesSide_spaces (fabric : SimulatedFabric) :
    fabric.spacesSide.spaces = fabric.spaces := rfl

@[simp]
theorem spacesSide_failingAdds (fabric : SimulatedFabric) :
    fabric.spacesSide.failingAdds = fabric.failingAdds := rfl

@[simp]
theorem spacesSide_rejectUpdates (fabric : SimulatedFabric) :
    fabric.spacesSide.rejectUpdates = fabric.rejectUpdates := rfl

/-- An operation that writes down its call and looks at nothing but its own part. -/
theorem actsOn_looking {own other : SimulatedFabric → SimulatedFabric}
    {action : StateM SimulatedFabric α} {call : FabricCall} {reply : SimulatedFabric → α}
    (run : ∀ state, action state = (reply state, state.logged call))
    (reduced : ∀ state, reply state = reply (own state))
    (own_unseen : ∀ state, own (state.logged call) = own state)
    (other_unseen : ∀ state, other (state.logged call) = other state) :
    ActsOn own other action where
  decided first second same := by
    rw [run, run]
    constructor
    · rw [reduced first, reduced second, same]
    · rw [own_unseen, own_unseen, same]
  unnoticed state := by
    rw [run, other_unseen]

theorem actsOn_listSpaces (model : String) :
    ActsOn spacesSide applicationsSide (fabric model).listSpaces :=
  actsOn_looking (run_listSpaces model) (fun _ => rfl) (fun _ => rfl) fun _ => rfl

theorem actsOn_setModelConfig (model assignment : String) :
    ActsOn spacesSide applicationsSide ((fabric model).setModelConfig assignment) :=
  actsOn_looking (run_setModelConfig model assignment) (fun _ => rfl) (fun _ => rfl) fun _ => rfl

theorem actsOn_listApplications (model : String) :
    ActsOn applicationsSide spacesSide (fabric model).listApplications :=
  actsOn_looking run_listApplications (fun _ => rfl) (fun _ => rfl) fun _ => rfl

theorem actsOn_setApplicationConfig (model application assignment : String)
    (jsonOutput : Bool) :
    ActsOn applicationsSide spacesSide
      ((fabric model).setApplicationConfig application assignment jsonOutput) :=
  actsOn_looking (run_setApplicationConfig application assignment jsonOutput) (fun _ => rfl)
    (fun _ => rfl) fun _ => rfl

theorem actsOn_addSpace (model name : String) (subnets : List String) :
    ActsOn spacesSide applicationsSide ((fabric model).addSpace name subnets) := by
  refine ActsOn.of_reduced ?_ ?_ ?_
  all_goals
    intro state
    cases refusing : state.failingAdds.contains name <;>
      cases present : state.spaces.has name <;>
      simp only [run_addSpace, spacesSide_failingAdds, spacesSide_spaces, refusing, present] <;>
      rfl

theorem actsOn_setSpaceSubnets (model name : String) (subnets : List String) :
    ActsOn spacesSide applicationsSide ((fabric model).setSpaceSubnets name subnets) := by
  refine ActsOn.of_reduced ?_ ?_ ?_
  all_goals
    intro state
    cases rejecting : state.rejectUpdates <;>
      cases present : state.spaces.has name <;>
      simp only [run_setSpaceSubnets, spacesSide_rejectUpdates, spacesSide_spaces, rejecting,
        present] <;>
      rfl

end SimulatedFabric

namespace Simulation

/-- What the reconciliation of spaces works on. -/
def spacesSide (simulation : Simulation) : SimulatedFabric :=
  simulation.fabric.spacesSide

/-- What the reconciliation of pools works on. -/
def poolsSide (simulation : Simulation) : SimulatedBalancer × SimulatedFabric :=
  (simulation.balancer, simulation.fabric.applicationsSide)

theorem actsOn_spaces {action : StateM SimulatedFabric α}
    (acts : ActsOn SimulatedFabric.spacesSide SimulatedFabric.applicationsSide action) :
    ActsOn spacesSide poolsSide (fabricPart.lift action) where
  decided first second same := acts.decided first.fabric second.fabric same
  unnoticed simulation := congrArg (Prod.mk simulation.balancer) (acts.unnoticed simulation.fabric)

theorem actsOn_applications {action : StateM SimulatedFabric α}
    (acts : ActsOn SimulatedFabric.applicationsSide SimulatedFabric.spacesSide action) :
    ActsOn poolsSide spacesSide (fabricPart.lift action) where
  decided first second same := by
    rcases Prod.mk.inj same with ⟨same_balancer, same_applications⟩
    rcases acts.decided _ _ same_applications with ⟨same_result, same_after⟩
    exact ⟨same_result, Prod.ext same_balancer same_after⟩
  unnoticed simulation := acts.unnoticed simulation.fabric

/-- The load balancer is a part of its own, whatever is done with it. -/
theorem actsOn_balancer (action : StateM SimulatedBalancer α) :
    ActsOn poolsSide spacesSide (balancerPart.lift action) where
  decided first second same := by
    rcases Prod.mk.inj same with ⟨same_balancer, same_applications⟩
    constructor
    · exact congrArg (fun balancer => (action balancer).1) same_balancer
    · exact Prod.ext (congrArg (fun balancer => (action balancer).2) same_balancer)
        same_applications
  unnoticed _ := rfl

end Simulation

end NetworkIsolation.Backend
