import NetworkIsolation.Json.Printer
import NetworkIsolation.Reconcile.Step

/-!
# Plans

A plan is a list of steps.  Running it checks and applies one step after the
other and stops at the first failure; evaluating it only checks, and goes on
after a check that failed.  The report has one entry for each step that was
reached.
-/

namespace NetworkIsolation.Reconcile

open NetworkIsolation.Backend NetworkIsolation.Json

/-- What became of a step. -/
inductive StepStatus where
  /-- There is something to do, but it was only evaluated. -/
  | ready
  | skipped
  | completed
  | failed
  deriving DecidableEq, Repr

/-- The word for a status. -/
def StepStatus.word : StepStatus → String
  | .ready => "ready"
  | .skipped => "skipped"
  | .completed => "completed"
  | .failed => "failed"

/-- The entry of one step. -/
structure StepReport where
  name : String
  status : StepStatus
  message : Option String
  deriving DecidableEq, Repr

/-- What became of the steps that were reached, in order. -/
structure PlanReport where
  steps : List StepReport
  deriving DecidableEq, Repr

namespace StepReport

/-- An entry as an object; there is no message where none is. -/
def toValue (report : StepReport) : Value :=
  let message : List (String × Value) :=
    match report.message with
    | some text => [("message", .string text)]
    | none => []
  .object ([("name", .string report.name), ("status", .string report.status.word)] ++ message)

end StepReport

namespace PlanReport

/-- The entry of the step that failed. -/
def failure (report : PlanReport) : Option StepReport :=
  report.steps.find? fun step => step.status = .failed

/-- Whether no step failed. -/
def succeeded (report : PlanReport) : Bool :=
  report.steps.all fun step => step.status ≠ .failed

/-- A report as an object, with the times of its beginning and its end. -/
def toValue (report : PlanReport) (started finished : String) : Value :=
  .object [
    ("steps", .array (report.steps.map StepReport.toValue)),
    ("started_at", .string started),
    ("finished_at", .string finished)]

end PlanReport

variable {σ : Type}

/-- Run the steps in order up to the first failure, with an action before each is applied. -/
def runSteps [Journal σ] (onApply : Step σ → StateM σ Unit) :
    List (Step σ) → StateM σ (List StepReport)
  | [] => return []
  | step :: steps => do
    match ← step.isApplicable with
    | .skipped reason =>
      note .plans .info (step.name ++ ": skipped (" ++ reason ++ ")")
      let reports ← runSteps onApply steps
      return ⟨step.name, .skipped, some reason⟩ :: reports
    | .failed reason =>
      note .plans .warn (step.name ++ ": not applicable: " ++ reason)
      return [⟨step.name, .failed, some reason⟩]
    | .ready =>
      note .plans .info step.description
      onApply step
      match ← step.apply with
      | .completed =>
        let reports ← runSteps onApply steps
        return ⟨step.name, .completed, none⟩ :: reports
      | .failed reason =>
        note .plans .warn (step.name ++ ": failed: " ++ reason)
        return [⟨step.name, .failed, some reason⟩]

/-- Run a plan with an action before each step is applied. -/
def runPlanWith [Journal σ] (onApply : Step σ → StateM σ Unit) (steps : List (Step σ)) :
    StateM σ PlanReport := do
  let reports ← runSteps onApply steps
  return ⟨reports⟩

/-- Run a plan. -/
def runPlan [Journal σ] (steps : List (Step σ)) : StateM σ PlanReport :=
  runPlanWith (fun _ => pure ()) steps

/-- The entry of a step that was only checked. -/
def checkedReport (name : String) : Applicability → StepReport
  | .ready => ⟨name, .ready, none⟩
  | .skipped reason => ⟨name, .skipped, some reason⟩
  | .failed reason => ⟨name, .failed, some reason⟩

/-- Check every step and apply none. -/
def evaluateSteps : List (Step σ) → StateM σ (List StepReport)
  | [] => return []
  | step :: steps => do
    let applicability ← step.isApplicable
    let reports ← evaluateSteps steps
    return checkedReport step.name applicability :: reports

/-- Evaluate a plan. -/
def evaluatePlan (steps : List (Step σ)) : StateM σ PlanReport := do
  let reports ← evaluateSteps steps
  return ⟨reports⟩

end NetworkIsolation.Reconcile
