import NetworkIsolation.Reconcile.Plan

/-!
# Visits to steps

The runner does the same with every step: it checks it, applies it if there is
something to do, and reports.  `visitStep` is this one visit, and running a plan
is visiting one step after the other up to the first failure.
-/

namespace NetworkIsolation.Reconcile

open NetworkIsolation.Backend

variable {σ : Type} [Journal σ]

/-- Check a step and apply it if there is something to do. -/
def visitStep (onApply : Step σ → StateM σ Unit) (step : Step σ) : StateM σ StepReport := do
  match ← step.isApplicable with
  | .skipped reason =>
    note .plans .info (step.name ++ ": skipped (" ++ reason ++ ")")
    return ⟨step.name, .skipped, some reason⟩
  | .failed reason =>
    note .plans .warn (step.name ++ ": not applicable: " ++ reason)
    return ⟨step.name, .failed, some reason⟩
  | .ready =>
    note .plans .info step.description
    onApply step
    match ← step.apply with
    | .completed => return ⟨step.name, .completed, none⟩
    | .failed reason =>
      note .plans .warn (step.name ++ ": failed: " ++ reason)
      return ⟨step.name, .failed, some reason⟩

/-- The runner visits one step and goes on with the others unless the step failed. -/
theorem runSteps_cons (onApply : Step σ → StateM σ Unit) (step : Step σ) (steps : List (Step σ)) :
    runSteps onApply (step :: steps) = (do
      let report ← visitStep onApply step
      if report.status = .failed then return [report]
      else
        let reports ← runSteps onApply steps
        return report :: reports) := by
  rw [runSteps, visitStep]
  simp only [bind_assoc]
  congr 1
  funext applicability
  cases applicability with
  | skipped reason => simp
  | failed reason => simp
  | ready =>
      simp only [bind_assoc]
      congr 1
      funext _
      congr 1
      funext _
      congr 1
      funext outcome
      cases outcome <;> simp

end NetworkIsolation.Reconcile
