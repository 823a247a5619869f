import NetworkIsolation.Proofs.Backend.Running
import NetworkIsolation.Reconcile.Step

/-!
# Working through a list, and doing it again

A reconciler works through a list until something fails.  What such a run does is
followed through a view of the state, the part of it that matters.  A run without
a failure changes the view once for every item, and a run over items that are all
settled leaves the view alone and has a known result.
-/

namespace NetworkIsolation.Reconcile

open NetworkIsolation.Backend

variable {σ ν ι κ ο : Type} {view : σ → ν}
variable {act : ι → StateM σ (Option String × List ο)}

theorem untilFailure_cons_of_some {item : ι} {state : σ} {reason : String}
    (failed : (act item state).1.1 = some reason) (items : List ι) :
    untilFailure act (item :: items) state = act item state := by
  rcases run : act item state with ⟨⟨failure, outcomes⟩, after⟩
  rw [run] at failed
  cases failed
  rw [untilFailure, run_bind, run]
  rfl

theorem untilFailure_cons_of_none {item : ι} {state : σ} (succeeded : (act item state).1.1 = none)
    (items : List ι) :
    untilFailure act (item :: items) state =
      (((untilFailure act items (act item state).2).1.1,
        (act item state).1.2 ++ (untilFailure act items (act item state).2).1.2),
        (untilFailure act items (act item state).2).2) := by
  rcases run : act item state with ⟨⟨failure, outcomes⟩, after⟩
  rw [run] at succeeded
  cases succeeded
  rw [untilFailure, run_bind, run]
  rfl

/-- Items in front that do not fail are done before the others. -/
theorem untilFailure_append_of_none {front : List ι} {state : σ}
    (succeeded : (untilFailure act front state).1.1 = none) (items : List ι) :
    untilFailure act (front ++ items) state =
      (((untilFailure act items (untilFailure act front state).2).1.1,
        (untilFailure act front state).1.2 ++
          (untilFailure act items (untilFailure act front state).2).1.2),
        (untilFailure act items (untilFailure act front state).2).2) := by
  induction front generalizing state with
  | nil => rfl
  | cons item front induction_hypothesis =>
      cases first : (act item state).1.1 with
      | some reason =>
          rw [untilFailure_cons_of_some first, first] at succeeded
          cases succeeded
      | none =>
          rw [untilFailure_cons_of_none first] at succeeded
          rw [List.cons_append, untilFailure_cons_of_none first, untilFailure_cons_of_none first,
            induction_hypothesis succeeded, List.append_assoc]

theorem untilFailure_inspects (each : ∀ item, Inspects view (act item)) (items : List ι) :
    Inspects view (untilFailure act items) := by
  induction items with
  | nil => exact inspects_pure _
  | cons item items induction_hypothesis =>
      refine (each item).bind ?_
      rintro ⟨failure, outcomes⟩
      cases failure with
      | some reason => exact inspects_pure _
      | none =>
          refine induction_hypothesis.bind ?_
          rintro ⟨failure, further⟩
          exact inspects_pure _

/-- The reason of a failure is the reason of an item. -/
theorem untilFailure_yields {fits : String → Prop} {items : List ι}
    (each : ∀ item ∈ items, Yields (act item) fun result => ∀ reason ∈ result.1, fits reason) :
    Yields (untilFailure act items) fun result => ∀ reason ∈ result.1, fits reason := by
  induction items with
  | nil => exact yields_pure (by simp)
  | cons item items induction_hypothesis =>
      refine (each item List.mem_cons_self).bind ?_
      rintro ⟨failure, outcomes⟩ known
      cases failure with
      | some reason => exact yields_pure known
      | none =>
          have rest := induction_hypothesis fun other member =>
            each other (List.mem_cons_of_mem _ member)
          exact rest.bind fun result known => yields_pure known

/--
If an item that does not fail adds its parts to the view, then a run without a
failure adds the parts of all items.
-/
theorem untilFailure_adds (view : σ → ν) {add : ν → List κ → ν} {parts : ι → List κ}
    (add_nil : ∀ seen, add seen [] = seen)
    (add_append : ∀ seen first second, add seen (first ++ second) = add (add seen first) second)
    (each : ∀ item state, (act item state).1.1 = none →
      view (act item state).2 = add (view state) (parts item))
    {items : List ι} {state : σ} (succeeded : (untilFailure act items state).1.1 = none) :
    view (untilFailure act items state).2 = add (view state) (items.flatMap parts) := by
  induction items generalizing state with
  | nil => exact (add_nil (view state)).symm
  | cons item items induction_hypothesis =>
      cases first : (act item state).1.1 with
      | some reason =>
          rw [untilFailure_cons_of_some first, first] at succeeded
          cases succeeded
      | none =>
          rw [untilFailure_cons_of_none first] at succeeded ⊢
          rw [List.flatMap_cons, add_append, ← each item state first]
          exact induction_hypothesis succeeded

/-- Items that are all settled leave the view alone, and their outcomes are known. -/
theorem untilFailure_settled (view : σ → ν) {settled : ν} {outcomes : ι → List ο} {items : List ι}
    (each : ∀ item ∈ items, ∀ state, view state = settled →
      (act item state).1 = (none, outcomes item) ∧ view (act item state).2 = settled)
    {state : σ} (seen : view state = settled) :
    (untilFailure act items state).1 = (none, items.flatMap outcomes) ∧
      view (untilFailure act items state).2 = settled := by
  induction items generalizing state with
  | nil => exact ⟨rfl, seen⟩
  | cons item items induction_hypothesis =>
      rcases each item List.mem_cons_self state seen with ⟨first_result, first_view⟩
      have first_succeeds : (act item state).1.1 = none := by rw [first_result]
      obtain ⟨rest_result, rest_view⟩ := induction_hypothesis
        (fun other member => each other (List.mem_cons_of_mem _ member)) first_view
      rw [untilFailure_cons_of_none first_succeeds]
      constructor
      · simp [first_result, rest_result]
      · exact rest_view

end NetworkIsolation.Reconcile
