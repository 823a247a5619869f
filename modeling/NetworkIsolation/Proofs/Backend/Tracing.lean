import NetworkIsolation.Backend.Kubectl
import NetworkIsolation.Backend.Trace
import NetworkIsolation.Proofs.Backend.Observation
import NetworkIsolation.Store.Access

/-!
# Traces as observations

A traced backend writes down every operation with its reply.  What it has written
down is an observation: an action emits the events that it adds to the trace, and
an operation that is watched emits exactly one.

Stores and invokers are traced in the same way as fabrics and load balancers.  One
trace can then take the events of everything that a plan could reach.
-/

namespace NetworkIsolation.Store

open NetworkIsolation.Backend NetworkIsolation.Json

/-- An operation of a store and its reply. -/
inductive StoreEvent where
  | load (key : String) (reply : Except StoreError Bucket)
  | save (key : String) (answers : Bucket) (reply : Except StoreError Unit)

/-- A store whose operations are written down as events. -/
def AnswerStore.traced {σ ε : Type} (store : AnswerStore σ) (event : StoreEvent → ε) :
    AnswerStore (Traced σ ε) where
  load key := Traced.watch (store.load key) fun reply => event (.load key reply)
  save key answers :=
    Traced.watch (store.save key answers) fun reply => event (.save key answers reply)

end NetworkIsolation.Store

namespace NetworkIsolation.Backend

/-- An invoker whose commands are written down as events. -/
def Invoker.traced {σ ε : Type} (invoker : Invoker σ) (event : Command → Reply String → ε) :
    Invoker (Traced σ ε) where
  run command := Traced.watch (invoker.run command) (event command)

namespace Traced

variable {σ ε α : Type}

/-- A traced state is observed by what is written down. -/
def observation : Observation (Traced σ ε) ε where
  reaches before events after := after.events = before.events ++ events
  stays traced := (List.append_nil traced.events).symm
  joins early late := by rw [late, early, List.append_assoc]

/-- An operation that is watched does what it does, and its event goes to the end. -/
theorem run_watch (action : StateM σ α) (event : α → ε) (traced : Traced σ ε) :
    watch action event traced = ((action traced.state).1,
      ⟨(action traced.state).2, traced.events ++ [event (action traced.state).1]⟩) := rfl

theorem record_eq [Journal σ] (entry : Note) (traced : Traced σ ε) :
    Journal.record entry traced = ⟨Journal.record entry traced.state, traced.events⟩ := rfl

theorem silent [Journal σ] : (observation : Observation (Traced σ ε) ε).Silent := by
  intro entry traced
  exact (List.append_nil traced.events).symm

/-- An operation that is watched emits one event. -/
theorem emits_watch (action : StateM σ α) (event : α → ε) :
    observation.Emits (watch action event) fun reply events => events = [event reply] := by
  intro traced
  exact ⟨[event (action traced.state).1], rfl, rfl⟩

end Traced

/-- What reconciliation could reach: the store, the backends, and their commands. -/
inductive OuterEvent (Handle : Type) where
  | store (event : Store.StoreEvent)
  | fabric (event : FabricEvent)
  | balancer (event : BalancerEvent Handle)
  | command (command : Command) (reply : Reply String)

/-- To list the spaces of a traced fabric emits one event. -/
theorem Fabric.emits_listSpaces {σ ε : Type} (fabric : Fabric σ) (event : FabricEvent → ε) :
    Traced.observation.Emits (fabric.traced event).listSpaces fun reply events =>
      events = [event (.listSpaces reply)] :=
  Traced.emits_watch _ _

/-! ## Connections -/

/-- No event, or one that is permitted. -/
def AtMostOne {ε : Type} (permitted : ε → Prop) (events : List ε) : Prop :=
  events = [] ∨ ∃ event, events = [event] ∧ permitted event

/-- A traced load balancer emits one event for a connection. -/
theorem LoadBalancer.emits_connect_traced {σ Handle ε : Type} (balancer : LoadBalancer σ Handle)
    (event : BalancerEvent Handle → ε) :
    Traced.observation.Emits (balancer.traced event).connect fun _ events =>
      AtMostOne (fun happened => ∃ reply, happened = event (.connect reply)) events := by
  refine (Traced.emits_watch balancer.connect fun reply => event (.connect reply)).mono ?_
  rintro reply events rfl
  exact Or.inr ⟨_, rfl, reply, rfl⟩

/-- To connect, `kubectl` is asked for its version, unless its credentials are missing. -/
theorem Kubectl.emits_connect_traced {σ ε : Type} [Journal σ] (kubectl : Kubectl)
    (invoker : Invoker σ)
    (event : Command → Reply String → ε) (isFile : Traced σ ε → String → Bool) :
    Traced.observation.Emits (kubectl.connect (invoker.traced event) isFile) fun _ events =>
      AtMostOne (fun happened => ∃ reply, happened = event kubectl.versionCommand reply)
        events := by
  refine Observation.Emits.after_get fun traced => ?_
  cases kubectl.missingKubeconfig? (isFile traced) with
  | some path => exact Observation.emits_pure (Or.inl rfl)
  | none =>
      refine (Traced.emits_watch (invoker.run kubectl.versionCommand)
        (event kubectl.versionCommand)).bind ?_
      rintro reply events rfl
      cases reply <;> exact Observation.emits_pure (Or.inr ⟨_, rfl, _, rfl⟩)

end NetworkIsolation.Backend

namespace NetworkIsolation.Store

open NetworkIsolation.Backend

/-- To load from a traced store emits one event. -/
theorem AnswerStore.emits_load {σ ε : Type} (store : AnswerStore σ) (event : StoreEvent → ε)
    (key : String) :
    Traced.observation.Emits ((store.traced event).load key) fun reply events =>
      events = [event (.load key reply)] :=
  Traced.emits_watch _ _

end NetworkIsolation.Store
