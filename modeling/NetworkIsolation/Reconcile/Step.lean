import NetworkIsolation.Backend.State
import NetworkIsolation.Text.OneLine

/-!
# Steps

A step is a named unit of reconciliation work on a state.  Its check changes no
backend and says whether there is anything to do; applying it does the work.
Every failure ends up in a message of one line.
-/

namespace NetworkIsolation.Reconcile

/-- What the check of a step says. -/
inductive Applicability where
  | ready
  | skipped (reason : String)
  | failed (reason : String)
  deriving DecidableEq, Repr

/-- What applying a step came to. -/
inductive StepOutcome where
  | completed
  | failed (reason : String)
  deriving DecidableEq, Repr

/-- What a single change of a backend came to. -/
inductive MutationOutcome where
  | created
  | updated
  /-- The backend refused the update and the object was left as it is. -/
  | updateUnsupported (reason : String)
  | failed (reason : String)
  deriving DecidableEq, Repr

namespace MutationOutcome

/-- Whether the change failed. -/
def isFailure : MutationOutcome → Bool
  | .failed _ => true
  | _ => false

/-- The words for an outcome. -/
def message : MutationOutcome → String
  | .created => "created"
  | .updated => "updated"
  | .updateUnsupported reason => "update unsupported: " ++ reason
  | .failed reason => "failed: " ++ reason

end MutationOutcome

/-- A unit of reconciliation work on a state. -/
structure Step (σ : Type) where
  name : String
  /-- What is shown while the step is applied. -/
  description : String
  isApplicable : StateM σ Applicability
  apply : StateM σ StepOutcome

/--
Do one thing after the other until one fails, and collect what each of them
gives, the failing one included.
-/
def untilFailure {σ ι ο : Type} (act : ι → StateM σ (Option String × List ο)) :
    List ι → StateM σ (Option String × List ο)
  | [] => return (none, [])
  | item :: items => do
    let (failure, outcomes) ← act item
    match failure with
    | some reason => return (some reason, outcomes)
    | none =>
      let (failure, further) ← untilFailure act items
      return (failure, outcomes ++ further)

end NetworkIsolation.Reconcile
