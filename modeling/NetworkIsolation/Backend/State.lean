/-!
# Stateful backends

Backends are records of operations on a state.  The state is left open, so that
a step can be run against simulated backends, scripted commands or a whole host
alike.  `Part` lifts the operations on one state to a larger one, and `Journal`
says where diagnostic notes go.
-/

namespace NetworkIsolation.Backend

/-- How important a diagnostic note is. -/
inductive Level where
  | error
  | warn
  | info
  | debug
  | trace
  deriving DecidableEq, Repr

namespace Level

/-- How far down a level is; the most important one comes first. -/
def depth : Level → Nat
  | .error => 0
  | .warn => 1
  | .info => 2
  | .debug => 3
  | .trace => 4

/-- The word for a level, five characters wide. -/
def word : Level → String
  | .error => "ERROR"
  | .warn => " WARN"
  | .info => " INFO"
  | .debug => "DEBUG"
  | .trace => "TRACE"

end Level

/-- The components that make notes. -/
inductive Component where
  | commandLine
  | commands
  | loadBalancer
  | answers
  | imports
  | engine
  | plans
  | spaces
  | pools
  deriving DecidableEq, Repr

/-- The path by which a log filter names a component. -/
def Component.path : Component → String
  | .commandLine => "netfence"
  | .commands => "netfence_runtime::command"
  | .loadBalancer => "netfence_runtime::loadbalancer"
  | .answers => "netfence_store::file"
  | .imports => "netfence_core::import"
  | .engine => "netfence_core::engine"
  | .plans => "netfence_core::plan"
  | .spaces => "netfence_core::spaces"
  | .pools => "netfence_core::pools"

/-- A diagnostic note. -/
structure Note where
  component : Component
  level : Level
  message : String
  deriving DecidableEq, Repr

/-- A state that takes diagnostic notes. -/
class Journal (σ : Type) where
  record : Note → σ → σ

/-- Make a note. -/
def note {σ : Type} [Journal σ] (component : Component) (level : Level) (message : String) :
    StateM σ Unit :=
  modify (Journal.record ⟨component, level, message⟩)

/-- How a state is part of a larger one. -/
structure Part (σ τ : Type) where
  get : τ → σ
  set : σ → τ → τ

namespace Part

variable {σ τ υ α : Type}

/-- Run an action on a part of the state. -/
def lift (part : Part σ τ) (action : StateM σ α) : StateM τ α := fun whole =>
  let (result, inner) := action (part.get whole)
  (result, part.set inner whole)

end Part

end NetworkIsolation.Backend
