import NetworkIsolation.Backend.SimulatedFabric
import NetworkIsolation.Proofs.Reconcile.Repetition
import NetworkIsolation.Proofs.Text.OneLine
import NetworkIsolation.Reconcile.Pools
import NetworkIsolation.Reconcile.Spaces

/-!
# Messages of failed steps

Backends answer with texts of any number of lines, and names come from free-form
answers and settings.  Whatever the backends answer, the message of a step that
failed is collapsed into one line, except for one part of one message: when a
space cannot be added, its name is put in as it stands.

So every message is on one line, unless it is about a space whose name is not.
-/

namespace NetworkIsolation.Reconcile

open NetworkIsolation.Backend NetworkIsolation.Configuration NetworkIsolation.Text

/-- The reason why a check failed. -/
@[simp]
def Applicability.failure? : Applicability → Option String
  | .failed reason => some reason
  | _ => none

/-- The reason why applying failed. -/
@[simp]
def StepOutcome.failure? : StepOutcome → Option String
  | .failed reason => some reason
  | .completed => none

section

variable {σ Handle : Type} [Journal σ] {fabric : Fabric σ} {balancer : LoadBalancer σ Handle}

namespace SpaceReconciler

/-- A message that says of a space that it cannot be ensured. -/
def IsAbout (message : String) (space : Space) : Prop :=
  ∃ reason, IsOneLine reason ∧ message = "failed to ensure space " ++ space.name ++ ": " ++ reason

theorem IsAbout.isOneLine_iff {message : String} {space : Space}
    (about : IsAbout message space) : IsOneLine message ↔ IsOneLine space.name := by
  rcases about with ⟨reason, one_line, rfl⟩
  have front : IsOneLine "failed to ensure space " := by decide
  have colon : IsOneLine ": " := by decide
  simp [front, colon, one_line]

theorem yields_ensureSpace (live : List String) (space : Space) :
    Yields (ensureSpace fabric live space) fun outcome =>
      ∀ reason, outcome = .failed reason → IsOneLine reason := by
  rw [ensureSpace]
  split
  · refine Yields.after ?_
    intro reply
    cases reply with
    | ok value => exact Yields.after fun _ => yields_pure (by simp)
    | error error => exact Yields.after fun _ => yields_pure (by simp)
  · refine Yields.after ?_
    intro reply
    cases reply with
    | ok value => exact Yields.after fun _ => yields_pure (by simp)
    | error error => exact yields_pure (by simp)

theorem yields_applySpace (live : List String) (space : Space) :
    Yields (applySpace fabric live space) fun result =>
      ∀ reason ∈ result.1, IsAbout reason space := by
  rw [applySpace]
  split
  · exact Yields.after fun _ => yields_pure (by simp)
  · refine (yields_ensureSpace live space).bind ?_
    intro outcome known
    cases outcome with
    | failed reason =>
        have about : IsAbout ("failed to ensure space " ++ space.name ++ ": " ++ reason) space :=
          ⟨reason, known reason rfl, rfl⟩
        exact yields_pure (by simpa using about)
    | created => exact yields_pure (by simp)
    | updated => exact yields_pure (by simp)
    | updateUnsupported reason => exact yields_pure (by simp)

/-- The message of a failed application is on one line or about a configured space. -/
theorem yields_apply (reconciler : SpaceReconciler) :
    Yields (reconciler.apply fabric) fun result => ∀ message ∈ result.1.failure?,
      IsOneLine message ∨ ∃ space ∈ reconciler.spaces, IsAbout message space := by
  refine Yields.after ?_
  intro reply
  cases reply with
  | error error => exact yields_pure (by simp)
  | ok live =>
      refine Yields.after fun _ => ?_
      have each : ∀ space ∈ reconciler.spaces,
          Yields (applySpace fabric live space) fun result =>
            ∀ reason ∈ result.1, ∃ space ∈ reconciler.spaces, IsAbout reason space := by
        intro space member state reason failed
        exact ⟨space, member, yields_applySpace live space state reason failed⟩
      refine (untilFailure_yields each).bind ?_
      rintro ⟨failure, outcomes⟩ known
      cases failure with
      | none => exact Yields.after fun _ => yields_pure (by simp)
      | some reason =>
          have about := known reason rfl
          exact yields_pure (by simpa using .inr about)

omit [Journal σ] in
theorem isApplicable_failure? (reconciler : SpaceReconciler) :
    reconciler.isApplicable.failure? = none := by
  rw [isApplicable]
  split
  · rfl
  · split <;> rfl

end SpaceReconciler

namespace PoolReconciler

omit [Journal σ] in
theorem yields_isApplicable (reconciler : PoolReconciler) (handle? : Option Handle) :
    Yields (reconciler.isApplicable balancer handle?) fun result =>
      ∀ message ∈ result.1.failure?, IsOneLine message := by
  rw [isApplicable]
  split
  · exact yields_pure (by simp)
  · refine Yields.after ?_
    intro reply
    cases reply with
    | ok handle => exact yields_pure (by simp)
    | error error => exact yields_pure (by simp)

theorem yields_apply (reconciler : PoolReconciler) (handle? : Option Handle) :
    Yields (reconciler.apply balancer fabric handle?) fun result =>
      ∀ message ∈ result.1.failure?, IsOneLine message := by
  rw [apply]
  split
  · exact Yields.after fun _ => yields_pure (by simp)
  · refine Yields.after ?_
    intro reply
    cases reply with
    | error error => exact yields_pure (by simp)
    | ok handle =>
        refine Yields.after ?_
        rintro ⟨failure, progress⟩
        cases failure with
        | none => exact yields_pure (by simp)
        | some reason => exact Yields.after fun _ => yields_pure (by simp)

end PoolReconciler

/--
Whatever the backends answer, every message of a failed check or application is on
one line, unless it is about a space that cannot be added and whose name is not on
one line.
-/
theorem failure_isOneLine_iff (config : IsolationConfig) (names : IsolationNames)
    (fabric : Fabric σ) (balancer : LoadBalancer σ Handle) (handle? : Option Handle)
    (state : σ) :
    let spaces := SpaceReconciler.ofConfig config names.defaultSpace
    let pools := PoolReconciler.ofConfig config names
    spaces.isApplicable.failure? = none ∧
      (∀ message ∈ (spaces.apply fabric state).1.1.failure?,
        IsOneLine message ↔ ∀ space ∈ config.spaces,
          SpaceReconciler.IsAbout message space → IsOneLine space.name) ∧
      (∀ message ∈ (pools.isApplicable balancer handle? state).1.1.failure?,
        IsOneLine message) ∧
      ∀ message ∈ (pools.apply balancer fabric handle? state).1.1.failure?, IsOneLine message := by
  refine ⟨SpaceReconciler.isApplicable_failure? _, ?_,
    PoolReconciler.yields_isApplicable _ handle? state,
    PoolReconciler.yields_apply _ handle? state⟩
  intro message failed
  constructor
  · intro one_line space _ about
    exact about.isOneLine_iff.mp one_line
  · intro named
    rcases SpaceReconciler.yields_apply _ state message failed with
      one_line | ⟨space, member, about⟩
    · exact one_line
    · exact about.isOneLine_iff.mpr (named space member about)

end

/-- A space whose name goes over two lines. -/
def brokenSpace : Space := ⟨"storage\nracks", ["10.0.0.0/24"]⟩

/-- When a space with a name of two lines is refused, the message has two lines. -/
theorem failure_of_brokenSpace :
    let config : IsolationConfig := ⟨true, [brokenSpace], .none⟩
    let fabric : SimulatedFabric := { failingAdds := [brokenSpace.name] }
    ∃ message, ((SpaceReconciler.ofConfig config "management").apply
        (SimulatedFabric.fabric "openstack") fabric).1.1 = .failed message ∧
      ¬ IsOneLine message := by
  refine ⟨_, rfl, ?_⟩
  decide +kernel

end NetworkIsolation.Reconcile
