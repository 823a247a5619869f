import NetworkIsolation.Proofs.Backend.Independence
import NetworkIsolation.Proofs.Backend.Tracing
import NetworkIsolation.Proofs.Reconcile.Runner

/-!
# The calls of a plan

The steps of a plan may be any state machines, and they may share their state.  What a
run does to them is told by the calls that it makes: it checks a step, it announces a
step that is ready to whoever watches the run, and it applies the step.

A visit is what becomes of one step that is reached.  It says which calls are made and
what is reported, and whether the run stops.  This file constructs the visits of every
run by induction on the plan: a run is its visits one after the other, and nothing else
is done to any step.  The laws of reports follow from the visits alone.

Whoever is told of a step sees its name and its description.  Being told may change a
state, and if the steps do not look at what is changed, then the run is the same as one
that tells nobody.
-/

namespace NetworkIsolation.Reconcile

open NetworkIsolation.Backend

/-! ## Calls and visits -/

/-- A call of a run.  A step is known by its position, and to whoever watches by its texts. -/
inductive PlanCall where
  | check (position : Nat) (reply : Applicability)
  | announce (name description : String)
  | apply (position : Nat) (reply : StepOutcome)
  deriving DecidableEq, Repr

/-- What becomes of a step that is reached. -/
inductive Visit where
  | skipped (reason : String)
  /-- The check failed. -/
  | refused (reason : String)
  | completed
  | failed (reason : String)
  deriving DecidableEq, Repr

namespace Visit

/-- What the check said. -/
def checked : Visit → Applicability
  | .skipped reason => .skipped reason
  | .refused reason => .failed reason
  | .completed => .ready
  | .failed _ => .ready

/-- What applying the step came to, if it was applied. -/
def applied? : Visit → Option StepOutcome
  | .skipped _ => none
  | .refused _ => none
  | .completed => some .completed
  | .failed reason => some (.failed reason)

/-- Whether the run ends with the visit. -/
def stops : Visit → Bool
  | .skipped _ => false
  | .refused _ => true
  | .completed => false
  | .failed _ => true

/-- What is reported on a step of a name. -/
def entry (name : String) : Visit → StepReport
  | .skipped reason => ⟨name, .skipped, some reason⟩
  | .refused reason => ⟨name, .failed, some reason⟩
  | .completed => ⟨name, .completed, none⟩
  | .failed reason => ⟨name, .failed, some reason⟩

/-- The calls of a visit to the step at a position. -/
def calls {σ : Type} (step : Step σ) (position : Nat) (visit : Visit) : List PlanCall :=
  .check position visit.checked ::
    match visit.applied? with
    | some outcome => [.announce step.name step.description, .apply position outcome]
    | none => []

theorem name_entry (name : String) (visit : Visit) : (visit.entry name).name = name := by
  cases visit <;> rfl

theorem status_entry_failed (name : String) (visit : Visit) :
    (visit.entry name).status = .failed ↔ visit.stops = true := by
  cases visit <;> simp [entry, stops]

theorem status_entry_ne_ready (name : String) (visit : Visit) :
    (visit.entry name).status ≠ .ready := by
  cases visit <;> simp [entry]

end Visit

section

variable {σ : Type}

/-- The calls of visits to the first steps of a plan, from a position on. -/
def callsFrom (position : Nat) : List (Step σ) → List Visit → List PlanCall
  | step :: steps, visit :: visits =>
    visit.calls step position ++ callsFrom (position + 1) steps visits
  | _, _ => []

/-- What is reported of visits to the first steps of a plan. -/
def entriesOf (steps : List (Step σ)) (visits : List Visit) : List StepReport :=
  List.zipWith (fun step visit => visit.entry step.name) steps visits

theorem callsFrom_no_visits (position : Nat) (steps : List (Step σ)) :
    callsFrom position steps [] = [] := by
  cases steps <;> rfl

theorem entriesOf_one_visit (step : Step σ) (steps : List (Step σ)) (visit : Visit) :
    entriesOf (step :: steps) [visit] = [visit.entry step.name] := by
  rw [entriesOf, List.zipWith_cons_cons, List.zipWith_nil_right]

/-- Visits to the first steps of a plan, up to one that ends the run or to the end of the plan. -/
structure AreVisits (steps : List (Step σ)) (visits : List Visit) : Prop where
  within : visits.length ≤ steps.length
  stops_at_last : ∀ position visit, visits[position]? = some visit → visit.stops = true →
    position + 1 = visits.length
  goes_on : (∀ visit ∈ visits, visit.stops = false) → visits.length = steps.length

theorem areVisits_nil : AreVisits ([] : List (Step σ)) [] where
  within := Nat.le_refl 0
  stops_at_last position visit found := by cases found
  goes_on _ := rfl

variable {step : Step σ} {steps : List (Step σ)} {visits : List Visit} {visit : Visit}

theorem areVisits_stop (stops : visit.stops = true) : AreVisits (step :: steps) [visit] where
  within := Nat.succ_le_succ (Nat.zero_le _)
  stops_at_last position found_visit found _ := by
    cases position with
    | zero => rfl
    | succ position => cases found
  goes_on none_stops := by
    have goes_on := none_stops visit List.mem_cons_self
    rw [stops] at goes_on
    cases goes_on

theorem AreVisits.next (rest : AreVisits steps visits) (goes_on : visit.stops = false) :
    AreVisits (step :: steps) (visit :: visits) where
  within := Nat.succ_le_succ rest.within
  stops_at_last position found_visit found stops := by
    cases position with
    | zero =>
        cases found
        rw [goes_on] at stops
        cases stops
    | succ position =>
        exact congrArg (· + 1) (rest.stops_at_last position found_visit found stops)
  goes_on none_stops :=
    congrArg (· + 1) (rest.goes_on fun other member =>
      none_stops other (List.mem_cons_of_mem _ member))

/-! ## Laws of reports -/

/-- What a report says about a plan, whatever its steps are. -/
structure PlanReport.Follows (report : PlanReport) (steps : List (Step σ)) : Prop where
  /-- The entries are those of the first steps, in order. -/
  names : report.steps.map StepReport.name =
    (steps.take report.steps.length).map Step.name
  /-- A failed entry is the last one. -/
  failed_is_last : ∀ position entry, report.steps[position]? = some entry →
    entry.status = .failed → position + 1 = report.steps.length
  covers : report.succeeded = true → report.steps.length = steps.length
  failure_none : report.failure = none ↔ report.succeeded = true
  failure_last : report.succeeded = false →
    ∃ entry, report.failure = some entry ∧ report.steps.getLast? = some entry
  never_ready : ∀ entry ∈ report.steps, entry.status ≠ .ready

theorem length_entriesOf (are_visits : AreVisits steps visits) :
    (entriesOf steps visits).length = visits.length := by
  rw [entriesOf, List.length_zipWith, Nat.min_eq_right are_visits.within]

theorem getElem?_entriesOf {position : Nat} {entry : StepReport}
    (found : (entriesOf steps visits)[position]? = some entry) :
    ∃ step visit, steps[position]? = some step ∧ visits[position]? = some visit ∧
      entry = visit.entry step.name := by
  rcases List.getElem?_zipWith_eq_some.mp found with ⟨step, visit, at_step, at_visit, same⟩
  exact ⟨step, visit, at_step, at_visit, same.symm⟩

theorem names_entriesOf (steps : List (Step σ)) (visits : List Visit) :
    (entriesOf steps visits).map StepReport.name =
      (steps.take visits.length).map Step.name := by
  induction steps generalizing visits with
  | nil => simp [entriesOf]
  | cons step steps induction_hypothesis =>
      cases visits with
      | nil => rfl
      | cons visit visits =>
          have rest := induction_hypothesis visits
          rw [entriesOf] at rest ⊢
          rw [List.zipWith_cons_cons, List.map_cons, rest, Visit.name_entry]
          rfl

/-- Whether no step failed, and which one did, is told by the first failed entry. -/
theorem PlanReport.failure_none_iff (report : PlanReport) :
    report.failure = none ↔ report.succeeded = true := by
  simp [failure, succeeded]

/-- The laws of a report follow from the visits that it tells of. -/
theorem follows_of_areVisits (are_visits : AreVisits steps visits) :
    PlanReport.Follows ⟨entriesOf steps visits⟩ steps := by
  have length := length_entriesOf are_visits
  have failed_is_last : ∀ position entry, (entriesOf steps visits)[position]? = some entry →
      entry.status = .failed → position + 1 = (entriesOf steps visits).length := by
    intro position entry found failed
    rcases getElem?_entriesOf found with ⟨step, visit, -, at_visit, rfl⟩
    rw [length]
    exact are_visits.stops_at_last position visit at_visit
      ((visit.status_entry_failed step.name).mp failed)
  refine ⟨?_, failed_is_last, ?_, PlanReport.failure_none_iff _, ?_, ?_⟩
  · rw [length]
    exact names_entriesOf steps visits
  · intro succeeded
    rw [length]
    refine are_visits.goes_on fun visit member => ?_
    rcases List.mem_iff_getElem?.mp member with ⟨position, at_visit⟩
    have inside : position < steps.length :=
      Nat.lt_of_lt_of_le (List.getElem?_eq_some_iff.mp at_visit).1 are_visits.within
    have found : (entriesOf steps visits)[position]? =
        some (visit.entry (steps[position]).name) := by
      rw [entriesOf, List.getElem?_zipWith_eq_some]
      exact ⟨_, visit, List.getElem?_eq_getElem inside, at_visit, rfl⟩
    have not_failed := List.all_eq_true.mp succeeded _ (List.mem_of_getElem? found)
    rw [← Bool.not_eq_true, ← visit.status_entry_failed]
    exact of_decide_eq_true not_failed
  · intro fails
    cases first : PlanReport.failure ⟨entriesOf steps visits⟩ with
    | none =>
        rw [(PlanReport.failure_none_iff _).mp first] at fails
        cases fails
    | some entry =>
        have marked := List.find?_some first
        have failed : entry.status = .failed := by simpa using marked
        rcases List.mem_iff_getElem?.mp (List.mem_of_find?_eq_some first) with
          ⟨position, found⟩
        refine ⟨entry, rfl, ?_⟩
        rw [List.getLast?_eq_getElem?, ← failed_is_last position entry found failed]
        exact found
  · intro entry member
    rcases List.mem_iff_getElem?.mp member with ⟨position, found⟩
    rcases getElem?_entriesOf found with ⟨step, visit, -, -, rfl⟩
    exact visit.status_entry_ne_ready step.name

/-! ## Steps whose calls are written down -/

/-- A step whose calls are written down with its position. -/
def Step.traced (step : Step σ) (position : Nat) : Step (Traced σ PlanCall) where
  name := step.name
  description := step.description
  isApplicable := Traced.watch step.isApplicable (.check position)
  apply := Traced.watch step.apply (.apply position)

/-- The steps of a plan, traced from a position on. -/
def tracedFrom (position : Nat) : List (Step σ) → List (Step (Traced σ PlanCall))
  | [] => []
  | step :: steps => step.traced position :: tracedFrom (position + 1) steps

/-- Tell of a step by its name and its description. -/
def announcing (tell : String → String → StateM σ Unit) (step : Step σ) : StateM σ Unit :=
  tell step.name step.description

/-- Tell of a step, which is written down as well. -/
def tracedAnnouncing (tell : String → String → StateM σ Unit)
    (step : Step (Traced σ PlanCall)) : StateM (Traced σ PlanCall) Unit :=
  Traced.watch (tell step.name step.description) fun _ =>
    .announce step.name step.description

variable [Journal σ]

/-- A visit makes its calls, and does to the state what it does when nothing is written down. -/
theorem exists_visit (tell : String → String → StateM σ Unit) (step : Step σ) (position : Nat)
    (before : Traced σ PlanCall) :
    ∃ (visit : Visit) (after : σ), visitStep (announcing tell) step before.state =
        (visit.entry step.name, after) ∧
      visitStep (tracedAnnouncing tell) (step.traced position) before =
        (visit.entry step.name, ⟨after, before.events ++ visit.calls step position⟩) := by
  simp only [visitStep, run_bind, Step.traced, tracedAnnouncing, announcing, Traced.run_watch]
  rcases step.isApplicable before.state with ⟨applicability, checked⟩
  cases applicability with
  | skipped reason => exact ⟨.skipped reason, _, rfl, rfl⟩
  | failed reason => exact ⟨.refused reason, _, rfl, rfl⟩
  | ready =>
      simp only [run_bind, run_note, Traced.run_watch, Traced.record_eq]
      rcases step.apply (tell step.name step.description
        (Journal.record ⟨.plans, .info, step.description⟩ checked)).2 with ⟨outcome, after⟩
      cases outcome with
      | completed =>
          refine ⟨.completed, after, rfl, ?_⟩
          rw [List.append_assoc, List.append_assoc]
          rfl
      | failed reason =>
          refine ⟨.failed reason, _, rfl, ?_⟩
          rw [List.append_assoc, List.append_assoc]
          rfl

/-- A run is its visits one after the other. -/
theorem exists_visits (tell : String → String → StateM σ Unit) (steps : List (Step σ))
    (position : Nat) (before : Traced σ PlanCall) :
    ∃ visits after, AreVisits steps visits ∧
      runSteps (announcing tell) steps before.state = (entriesOf steps visits, after) ∧
      runSteps (tracedAnnouncing tell) (tracedFrom position steps) before =
        (entriesOf steps visits, ⟨after, before.events ++ callsFrom position steps visits⟩) := by
  induction steps generalizing position before with
  | nil =>
      refine ⟨[], before.state, areVisits_nil, rfl, ?_⟩
      rw [callsFrom_no_visits, List.append_nil]
      rfl
  | cons step steps induction_hypothesis =>
      rcases exists_visit tell step position before with ⟨visit, between, plain, traced⟩
      rw [tracedFrom, runSteps_cons, runSteps_cons, run_bind, run_bind, plain, traced]
      simp only [run_ite, visit.status_entry_failed]
      cases stops : visit.stops with
      | true =>
          refine ⟨[visit], between, areVisits_stop stops, ?_, ?_⟩
          · rw [if_pos rfl, entriesOf_one_visit]
            rfl
          · rw [if_pos rfl, entriesOf_one_visit, callsFrom, callsFrom_no_visits, List.append_nil]
            rfl
      | false =>
          rcases induction_hypothesis (position + 1)
            ⟨between, before.events ++ visit.calls step position⟩ with
            ⟨visits, after, are_visits, rest_plain, rest_traced⟩
          refine ⟨visit :: visits, after, are_visits.next stops, ?_, ?_⟩
          · simp only [Bool.false_eq_true, if_false, run_bind, rest_plain]
            rfl
          · simp only [Bool.false_eq_true, if_false, run_bind, rest_traced, callsFrom,
              List.append_assoc]
            rfl

/-! ## Telling of steps -/

variable {ν : Type} {view : σ → ν} {tell : String → String → StateM σ Unit}

/--
Whether the steps look at nothing but a view of the state, which is left alone when they
are told of.
-/
structure LeavesSteps (view : σ → ν) (tell : String → String → StateM σ Unit)
    (steps : List (Step σ)) : Prop where
  checks : ∀ step ∈ steps, ActsOn view (fun _ => ()) step.isApplicable
  applies : ∀ step ∈ steps, ActsOn view (fun _ => ()) step.apply
  notes : ∀ component level message,
    ActsOn view (fun _ => ()) (note component level message : StateM σ Unit)
  telling : ∀ name description state, view (tell name description state).2 = view state

/-- From states with the same view, a visit that tells gives what one gives that does not. -/
theorem LeavesSteps.agree_visit (leaves : LeavesSteps view tell (step :: steps)) {first second : σ}
    (same : view first = view second) :
    (visitStep (fun _ => pure ()) step first).1 = (visitStep (announcing tell) step second).1 ∧
      view (visitStep (fun _ => pure ()) step first).2 =
        view (visitStep (announcing tell) step second).2 := by
  rcases (leaves.checks step List.mem_cons_self).decided first second same with
    ⟨same_check, same_checked⟩
  simp only [visitStep, run_bind, same_check]
  cases (step.isApplicable second).1 with
  | skipped reason => exact ⟨rfl, ((leaves.notes _ _ _).decided _ _ same_checked).2⟩
  | failed reason => exact ⟨rfl, ((leaves.notes _ _ _).decided _ _ same_checked).2⟩
  | ready =>
      have same_noted := ((leaves.notes .plans .info step.description).decided _ _
        same_checked).2
      have same_told := same_noted.trans
        (leaves.telling step.name step.description _).symm
      rcases (leaves.applies step List.mem_cons_self).decided _ _ same_told with
        ⟨same_outcome, same_applied⟩
      simp only [run_bind, run_pure, announcing, same_outcome]
      generalize (step.apply (note _ _ _ (step.isApplicable first).2).2).2 = first_after
        at same_applied ⊢
      generalize step.apply (tell _ _ _).2 = second_end at same_applied ⊢
      rcases second_end with ⟨outcome, second_after⟩
      cases outcome with
      | completed => exact ⟨rfl, same_applied⟩
      | failed reason => exact ⟨rfl, ((leaves.notes _ _ _).decided _ _ same_applied).2⟩

/-- From states with the same view, a run that tells gives what one gives that does not. -/
theorem LeavesSteps.agree_run (leaves : LeavesSteps view tell steps) {first second : σ}
    (same : view first = view second) :
    (runSteps (fun _ => pure ()) steps first).1 =
        (runSteps (announcing tell) steps second).1 ∧
      view (runSteps (fun _ => pure ()) steps first).2 =
        view (runSteps (announcing tell) steps second).2 := by
  induction steps generalizing first second with
  | nil => exact ⟨rfl, same⟩
  | cons step steps induction_hypothesis =>
      have leaves_rest : LeavesSteps view tell steps :=
        ⟨fun other member => leaves.checks other (List.mem_cons_of_mem _ member),
          fun other member => leaves.applies other (List.mem_cons_of_mem _ member),
          leaves.notes, leaves.telling⟩
      rcases leaves.agree_visit same with ⟨same_report, same_visited⟩
      rcases induction_hypothesis leaves_rest same_visited with ⟨same_rest, same_after⟩
      rw [runSteps_cons, runSteps_cons, run_bind, run_bind, same_report, run_ite, run_ite]
      split
      · exact ⟨rfl, same_visited⟩
      · exact ⟨congrArg (List.cons _) same_rest, same_after⟩

/--
For every plan of steps that may be any state machines, and for whoever is told of them:
a run makes the calls of its visits and no others, in the order of the plan, up to the
first visit that ends it.  Its report has the entries of the visits, and the laws of
reports hold.  Whether the calls are written down makes no difference, and neither does
who is told, as long as the steps do not look at what that changes.
-/
theorem runPlanWith_makes_calls_of_visits (tell : String → String → StateM σ Unit)
    (steps : List (Step σ)) (start : Traced σ PlanCall) :
    ∃ report after visits,
      runPlanWith (tracedAnnouncing tell) (tracedFrom 0 steps) start = (report, after) ∧
      runPlanWith (announcing tell) steps start.state = (report, after.state) ∧
      AreVisits steps visits ∧
      after.events = start.events ++ callsFrom 0 steps visits ∧
      report.steps = entriesOf steps visits ∧
      report.Follows steps ∧
      ∀ {ν : Type} (view : σ → ν), LeavesSteps view tell steps →
        ∃ final, runPlan steps start.state = (report, final) ∧ view final = view after.state := by
  rcases exists_visits tell steps 0 start with ⟨visits, after, are_visits, plain, traced⟩
  refine ⟨⟨entriesOf steps visits⟩, ⟨after, start.events ++ callsFrom 0 steps visits⟩, visits,
    ?_, ?_, are_visits, rfl, rfl, follows_of_areVisits are_visits, ?_⟩
  · rw [runPlanWith, run_bind, traced]
    rfl
  · rw [runPlanWith, run_bind, plain]
    rfl
  · intro ν view leaves
    rcases leaves.agree_run (rfl : view start.state = view start.state) with
      ⟨same_reports, same_view⟩
    rw [plain] at same_reports same_view
    refine ⟨_, ?_, same_view⟩
    rw [runPlan, runPlanWith, run_bind, same_reports]
    rfl

/-! ## A list of what was told -/

/-- The state of a list of events. -/
def besideEvents (ε : Type) : Part σ (Traced σ ε) where
  get := Traced.state
  set state traced := { traced with state }

/-- A step on the state that stands beside a list of events. -/
def Step.beside (ε : Type) (step : Step σ) : Step (Traced σ ε) where
  name := step.name
  description := step.description
  isApplicable := (besideEvents ε).lift step.isApplicable
  apply := (besideEvents ε).lift step.apply

/-- Put what is told at the end of the list. -/
def enlist (name description : String) : StateM (Traced σ (String × String)) Unit :=
  modify fun traced => { traced with events := traced.events ++ [(name, description)] }

omit [Journal σ] in
theorem actsOn_lift_beside {α ε : Type} (action : StateM σ α) :
    ActsOn Traced.state (fun _ => ()) ((besideEvents ε).lift action) where
  decided first second same := by
    change (action first.state).1 = (action second.state).1 ∧
      (action first.state).2 = (action second.state).2
    rw [same]
    exact ⟨rfl, rfl⟩
  unnoticed _ := rfl

/-- Steps that stand beside the list do not look at it. -/
theorem leavesSteps_enlist (steps : List (Step σ)) :
    LeavesSteps Traced.state enlist (steps.map (Step.beside (String × String))) where
  checks step member := by
    rcases List.mem_map.mp member with ⟨inner, -, rfl⟩
    exact actsOn_lift_beside inner.isApplicable
  applies step member := by
    rcases List.mem_map.mp member with ⟨inner, -, rfl⟩
    exact actsOn_lift_beside inner.apply
  notes component level message := {
    decided := fun first second same => ⟨rfl, congrArg (Journal.record _) same⟩
    unnoticed := fun _ => rfl }
  telling _ _ _ := rfl

/-- Of three steps the second fails when it is applied; the first two were told of. -/
theorem runPlanWith_tells_of_two_steps :
    let step (name description : String) (outcome : StepOutcome) : Step SimulatedFabric :=
      ⟨name, description, pure .ready, pure outcome⟩
    let steps := [step "spaces" "apply spaces" .completed,
      step "pools" "apply pools" (.failed "refused"), step "model" "apply model" .completed]
    let report : PlanReport :=
      ⟨[⟨"spaces", .completed, none⟩, ⟨"pools", .failed, some "refused"⟩]⟩
    ∃ after final : Traced SimulatedFabric (String × String),
      runPlanWith (announcing enlist) (steps.map (Step.beside (String × String))) ⟨{}, []⟩ =
        (report, after) ∧
      after.events = [("spaces", "apply spaces"), ("pools", "apply pools")] ∧
      runPlan (steps.map (Step.beside (String × String))) ⟨{}, []⟩ = (report, final) ∧
      final.events = [] ∧ final.state = after.state := by
  intro step steps report
  rcases runPlanWith_makes_calls_of_visits enlist (steps.map (Step.beside (String × String)))
    ⟨⟨{}, []⟩, []⟩ with ⟨found, after, visits, -, told, -, -, -, -, agrees⟩
  rcases agrees Traced.state (leavesSteps_enlist steps) with ⟨final, untold, same_state⟩
  have same_report : report = found := congrArg Prod.fst told
  rw [← same_report] at told untold
  refine ⟨after.state, final, told, ?_, untold, ?_, same_state⟩
  · exact (congrArg (fun result => result.2.events) told).symm
  · exact (congrArg (fun result => result.2.events) untold).symm

end

end NetworkIsolation.Reconcile
