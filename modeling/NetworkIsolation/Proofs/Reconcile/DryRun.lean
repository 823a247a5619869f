import Mathlib.Data.List.Forall2
import NetworkIsolation.Proofs.Backend.Running
import NetworkIsolation.Proofs.Backend.Tracing
import NetworkIsolation.Proofs.Reconcile.FailStop
import NetworkIsolation.Proofs.Reconcile.Runner
import NetworkIsolation.Reconcile.Engine

/-!
# Dry runs

Evaluating a plan checks every step and applies none.  Of the two reconcilers only
the one of pools needs a backend for its check, and only to connect, so a dry run
emits one connection at most, whatever the backends are.

A dry run visits every step, one after the other, while a real run stops at a
failure and applies a step before it checks the next one.  They still agree on which
steps are skipped, because why a step is skipped does not depend on the state in
which it is checked.  That is known of each step alone, and the induction over the
plan compares runs from any two states.
-/

namespace NetworkIsolation.Reconcile

open NetworkIsolation.Backend NetworkIsolation.Configuration NetworkIsolation.Json
open NetworkIsolation.Store

/-! ## Checks that emit little -/

section

variable {σ ε : Type} {observation : Observation σ ε}

/-- A dry run emits what the checks of the steps emit, one check after the other. -/
theorem emits_evaluateSteps {fits : Step σ → List ε → Prop} (steps : List (Step σ))
    (each : ∀ step ∈ steps, observation.Emits step.isApplicable fun _ events => fits step events) :
    observation.Emits (evaluateSteps steps) fun reports events =>
      reports.map StepReport.name = steps.map Step.name ∧
        ∃ parts, List.Forall₂ fits steps parts ∧ events = parts.flatten := by
  induction steps with
  | nil => exact Observation.emits_pure ⟨rfl, [], .nil, rfl⟩
  | cons step steps induction_hypothesis =>
      refine (each step List.mem_cons_self).bind ?_
      intro applicability events fact
      refine (induction_hypothesis fun other member =>
        each other (List.mem_cons_of_mem _ member)).bind ?_
      rintro reports further ⟨names, parts, all_fit, rfl⟩
      refine Observation.emits_pure ⟨?_, events :: parts, .cons fact all_fit, ?_⟩
      · rw [List.map_cons, List.map_cons, names]
        cases applicability <;> rfl
      · rw [List.append_nil, List.flatten_cons]

end

/-! ## Steps that are skipped in every state or in none -/

/-- Why a step is skipped, if the check says so. -/
def Applicability.skipReason? : Applicability → Option String
  | .skipped reason => some reason
  | _ => none

/-- Whether a step is reported as skipped for a reason, or as not skipped if there is none. -/
def StepReport.IsSkippedFor (report : StepReport) : Option String → Prop
  | some reason => report.status = .skipped ∧ report.message = some reason
  | none => report.status ≠ .skipped

/-- Whether the reason why a step is skipped is the same in every state. -/
def Step.IsSkippedAlike {σ : Type} (step : Step σ) : Prop :=
  ∃ reason?, Yields step.isApplicable fun applicability => applicability.skipReason? = reason?

/-- Two reports on the same step, which is skipped in both for the same reason or in neither. -/
structure StepReport.AgreesOnSkip (first second : StepReport) : Prop where
  name : first.name = second.name
  skipped : first.status = .skipped ↔ second.status = .skipped
  message : first.status = .skipped → first.message = second.message

theorem StepReport.agreesOnSkip_of_reason {first second : StepReport} {reason? : Option String}
    (name : first.name = second.name) (first_skipped : first.IsSkippedFor reason?)
    (second_skipped : second.IsSkippedFor reason?) : first.AgreesOnSkip second := by
  cases reason? with
  | none =>
      exact ⟨name, iff_of_false first_skipped second_skipped,
        fun skipped => absurd skipped first_skipped⟩
  | some reason =>
      refine ⟨name, iff_of_true first_skipped.1 second_skipped.1, ?_⟩
      intro _
      rw [first_skipped.2, second_skipped.2]

section

variable {σ : Type}

theorem checkedReport_isSkippedFor (name : String) (applicability : Applicability) :
    (checkedReport name applicability).IsSkippedFor applicability.skipReason? := by
  cases applicability with
  | ready => simp [checkedReport, StepReport.IsSkippedFor, Applicability.skipReason?]
  | skipped reason => exact ⟨rfl, rfl⟩
  | failed reason => simp [checkedReport, StepReport.IsSkippedFor, Applicability.skipReason?]

variable [Journal σ]

/-- A visit reports a step as skipped for the reason that its check gives. -/
theorem visitStep_isSkippedFor (onApply : Step σ → StateM σ Unit) {step : Step σ}
    {reason? : Option String}
    (alike : Yields step.isApplicable fun applicability =>
      applicability.skipReason? = reason?) :
    Yields (visitStep onApply step) fun report =>
      report.name = step.name ∧ report.IsSkippedFor reason? := by
  refine alike.bind ?_
  intro applicability same
  subst same
  cases applicability with
  | skipped reason => exact Yields.after fun _ => yields_pure ⟨rfl, rfl, rfl⟩
  | failed reason =>
      exact Yields.after fun _ => yields_pure ⟨rfl, by
        simp [StepReport.IsSkippedFor, Applicability.skipReason?]⟩
  | ready =>
      refine Yields.after fun _ => Yields.after fun _ => Yields.after fun outcome => ?_
      cases outcome with
      | completed =>
          exact yields_pure ⟨rfl, by simp [StepReport.IsSkippedFor, Applicability.skipReason?]⟩
      | failed reason =>
          exact Yields.after fun _ => yields_pure ⟨rfl, by
            simp [StepReport.IsSkippedFor, Applicability.skipReason?]⟩

/-- From any two states, a run and a dry run agree on every step that the run reports on. -/
theorem runSteps_agreesOnSkips {onApply : Step σ → StateM σ Unit} {steps : List (Step σ)}
    (alike : ∀ step ∈ steps, step.IsSkippedAlike) (first second : σ) {position : Nat}
    {entry : StepReport} (reported : (runSteps onApply steps first).1[position]? = some entry) :
    ∃ checked, (evaluateSteps steps second).1[position]? = some checked ∧
      entry.AgreesOnSkip checked := by
  induction steps generalizing first second position with
  | nil => cases reported
  | cons step steps induction_hypothesis =>
      rcases alike step List.mem_cons_self with ⟨reason?, same⟩
      have visited := visitStep_isSkippedFor onApply same first
      rw [runSteps_cons, run_bind] at reported
      generalize visitStep onApply step first = visit at visited reported
      rcases visit with ⟨report, after⟩
      cases position with
      | zero =>
          have here : report = entry := by
            rw [run_ite] at reported
            split at reported <;> exact Option.some.inj reported
          subst here
          have checks := checkedReport_isSkippedFor step.name (step.isApplicable second).1
          rw [same second] at checks
          refine ⟨checkedReport step.name (step.isApplicable second).1, rfl,
            StepReport.agreesOnSkip_of_reason ?_ visited.2 checks⟩
          rw [visited.1]
          cases (step.isApplicable second).1 <;> rfl
      | succ position =>
          rw [run_ite] at reported
          split at reported
          · cases reported
          · exact induction_hypothesis (fun other member =>
              alike other (List.mem_cons_of_mem _ member)) after (step.isApplicable second).2
              reported

end

/-! ## The steps of a configuration -/

/-- The names of the selected steps in the order of a plan. -/
def StepSelection.names : StepSelection → List String
  | .all => ["spaces", "pools"]
  | .spaces => ["spaces"]
  | .pools => ["pools"]

section

variable {σ Handle ε : Type} [Journal σ] {fabric : Fabric σ} {balancer : LoadBalancer σ Handle}
  {observation : Observation σ ε} {permitted : ε → Prop}

omit [Journal σ] in
/-- Whether the pools are skipped is decided by the ranges alone. -/
theorem PoolReconciler.yields_skipReason? (reconciler : PoolReconciler)
    (balancer : LoadBalancer σ Handle) :
    ∃ reason?, ∀ handle? : Option Handle, Yields (reconciler.isApplicable balancer handle?)
      fun result => result.1.skipReason? = reason? := by
  by_cases empty : reconciler.resolvedRanges.isEmpty = true
  · let reason := if reconciler.enabled then "no load-balancer ranges specified"
      else "network isolation disabled"
    refine ⟨some reason, fun handle? => ?_⟩
    rw [isApplicable, if_pos empty]
    exact yields_pure rfl
  · refine ⟨none, fun handle? => ?_⟩
    rw [isApplicable, if_neg empty]
    refine Yields.after fun reply => ?_
    cases reply <;> exact yields_pure rfl

omit [Journal σ] in
/-- The check of the pools emits a connection at most. -/
theorem PoolReconciler.emits_check (reconciler : PoolReconciler) (handle? : Option Handle)
    (connects : observation.Emits balancer.connect fun _ events => AtMostOne permitted events) :
    observation.Emits (reconciler.isApplicable balancer handle?) fun _ events =>
      AtMostOne permitted events := by
  rw [isApplicable]
  split
  · exact Observation.emits_pure (Or.inl rfl)
  · cases handle? with
    | some handle => exact Observation.emits_pure (Or.inl rfl)
    | none =>
        refine connects.bind ?_
        intro reply events few
        cases reply <;> exact Observation.emits_pure (by rwa [List.append_nil])

/-- A step of a plan reconciles spaces, or it reconciles pools. -/
theorem forall_planSteps {fits : Step (Session σ Handle) → Prop} {config : IsolationConfig}
    {names : IsolationNames} (selection : StepSelection)
    (spaces : fits (spacesStep (.ofConfig config names.defaultSpace) fabric))
    (pools : fits (poolsStep (.ofConfig config names) balancer fabric)) :
    ∀ step ∈ planSteps config names selection fabric balancer, fits step := by
  intro step member
  rcases List.mem_append.mp member with of_spaces | of_pools
  · split at of_spaces
    · rcases List.mem_singleton.mp of_spaces with rfl
      exact spaces
    · cases of_spaces
  · split at of_pools
    · rcases List.mem_singleton.mp of_pools with rfl
      exact pools
    · cases of_pools

theorem planSteps_isSkippedAlike (config : IsolationConfig) (names : IsolationNames)
    (selection : StepSelection) :
    ∀ step ∈ planSteps config names selection fabric balancer, step.IsSkippedAlike := by
  refine forall_planSteps selection ?_ ?_
  · exact ⟨(SpaceReconciler.ofConfig config names.defaultSpace).isApplicable.skipReason?,
      yields_pure rfl⟩
  · rcases (PoolReconciler.ofConfig config names).yields_skipReason? balancer with
      ⟨reason?, same⟩
    exact ⟨reason?, fun session => same session.handle session.world⟩

/-- A dry run of a configuration reports every selected step, and emits a connection at most. -/
theorem emits_evaluate_planSteps (config : IsolationConfig) (names : IsolationNames)
    (selection : StepSelection) (fabric : Fabric σ)
    (connects : observation.Emits balancer.connect fun _ events => AtMostOne permitted events) :
    (observation.lift Session.worldPart).Emits
      (evaluateSteps (planSteps config names selection fabric balancer)) fun reports events =>
        reports.map StepReport.name = selection.names ∧ AtMostOne permitted events := by
  have checks : ∀ step ∈ planSteps config names selection fabric balancer,
      (observation.lift Session.worldPart).Emits step.isApplicable fun _ events =>
        AtMostOne permitted events ∧ (step.name = "spaces" → events = []) := by
    refine forall_planSteps selection ?_ ?_
    · exact Observation.emits_pure ⟨Or.inl rfl, fun _ => rfl⟩
    · intro session
      rcases (PoolReconciler.ofConfig config names).emits_check session.handle connects
        session.world with ⟨events, reached, few⟩
      exact ⟨events, reached, few, fun of_spaces => by simp [poolsStep] at of_spaces⟩
  refine (emits_evaluateSteps _ checks).mono ?_
  rintro reports events ⟨names, parts, all_fit, rfl⟩
  refine ⟨?_, ?_⟩
  · rw [names]
    cases selection <;> rfl
  · cases selection with
    | all =>
        rcases all_fit with _ | ⟨spaces, _ | ⟨pools, _ | _⟩⟩
        rw [spaces.2 rfl]
        simpa using pools.1
    | spaces =>
        rcases all_fit with _ | ⟨spaces, _ | _⟩
        simpa using spaces.1
    | pools =>
        rcases all_fit with _ | ⟨pools, _ | _⟩
        simpa using pools.1

end

/-! ## Planning and evaluating -/

section

variable {σ Handle ε : Type} [Journal σ]

theorem Engine.plan_eq_ok {engine : Engine σ} {selection : StepSelection} {fabric : Fabric σ}
    {balancer : LoadBalancer σ Handle} {start ready : σ} {steps : List (Step (Session σ Handle))}
    (planned : engine.plan selection fabric balancer start = (.ok steps, ready)) :
    ∃ config, engine.loadConfig start = (.ok config, ready) ∧
      steps = planSteps config engine.settings.names selection fabric balancer := by
  rw [Engine.plan, run_bind] at planned
  rcases loaded : engine.loadConfig start with ⟨result, after⟩
  rw [loaded] at planned
  cases result with
  | error error => cases planned
  | ok config =>
      cases planned
      exact ⟨config, rfl, rfl⟩

/-- Loading a configuration loads buckets and does nothing else. -/
theorem Engine.emits_loadConfig {observation : Observation σ ε} {permitted : ε → Prop}
    (silent : observation.Silent) (engine : Engine σ)
    (loads : ∀ key, observation.Emits (engine.store.load key) fun _ events =>
      ∀ event ∈ events, permitted event) :
    observation.Emits engine.loadConfig fun _ events => ∀ event ∈ events, permitted event := by
  have bucket : ∀ key, observation.Emits (engine.loadBucket key) fun _ events =>
      ∀ event ∈ events, permitted event := by
    intro key
    refine (loads key).bind fun reply events fact => Observation.emits_pure ?_
    rwa [List.append_nil]
  refine (bucket isolationKey).bind ?_
  intro reply events first
  cases reply with
  | error error => exact Observation.emits_pure (by rwa [List.append_nil])
  | ok isolation =>
      refine (bucket addonsKey).bind ?_
      intro reply further second
      have both : ∀ event ∈ events ++ (further ++ []), permitted event := by
        rw [List.append_nil]
        exact fun event member => (List.mem_append.mp member).elim (first event) (second event)
      cases reply with
      | error error => exact Observation.emits_pure both
      | ok addons =>
          dsimp only
          cases IsolationConfig.ofAnswers isolation addons with
          | error cause => exact Observation.emits_pure both
          | ok config => exact Observation.Emits.after_note silent (Observation.emits_pure both)

end

/-- What planning and a dry run of the planned steps come to, beside a real run of them. -/
structure IsDryRun {σ Handle ε : Type} [Journal σ] (names : List String)
    (loading connecting : ε → Prop) (start ready : Traced σ ε)
    (steps : List (Step (Session (Traced σ ε) Handle))) : Prop where
  /-- Planning only loads. -/
  planning : ∃ loads, ready.events = start.events ++ loads ∧ ∀ event ∈ loads, loading event
  /-- Evaluating the plan does not go beyond one connection. -/
  evaluating : ∃ connects,
    (Session.within (evaluatePlan steps) ready).2.events = ready.events ++ connects ∧
      AtMostOne connecting connects
  /-- Every selected step is reported once and in order. -/
  reports_all : (Session.within (evaluatePlan steps) ready).1.steps.map StepReport.name = names
  /--
  A step that a real run reports on is skipped in the dry run if it is skipped in
  the real run and for the same reason, also when the backends have changed in
  between.
  -/
  agrees : ∀ (changed : Traced σ ε) (position : Nat) (entry : StepReport),
    (Session.within (runPlan steps) changed).1.steps[position]? = some entry →
      ∃ checked, (Session.within (evaluatePlan steps) ready).1.steps[position]? = some checked ∧
        entry.AgreesOnSkip checked

/-- A plan of a traced engine is dry if a connection of its load balancer is one event. -/
theorem isDryRun_of_plan {σ Handle ε : Type} [Journal σ] {store : AnswerStore σ}
    {settings : Settings} {selection : StepSelection} {event : StoreEvent → ε}
    {fabric : Fabric (Traced σ ε)} {balancer : LoadBalancer (Traced σ ε) Handle}
    {connecting : ε → Prop} {start ready : Traced σ ε}
    {steps : List (Step (Session (Traced σ ε) Handle))}
    (connects : Traced.observation.Emits balancer.connect fun _ events =>
      AtMostOne connecting events)
    (planned : Engine.plan ⟨store.traced event, settings⟩ selection fabric balancer start =
      (.ok steps, ready)) :
    IsDryRun selection.names (fun loaded => ∃ key reply, loaded = event (.load key reply))
      connecting start ready steps := by
  rcases Engine.plan_eq_ok planned with ⟨config, loaded, rfl⟩
  have buckets : ∀ key, Traced.observation.Emits ((store.traced event).load key) fun _ events =>
      ∀ happened ∈ events, ∃ key reply, happened = event (.load key reply) := by
    intro key
    refine (store.emits_load event key).mono ?_
    rintro reply events rfl happened member
    exact ⟨key, reply, List.mem_singleton.mp member⟩
  have loading := Engine.emits_loadConfig Traced.silent ⟨store.traced event, settings⟩ buckets
    start
  rw [Observation.EmitsAt, loaded] at loading
  rcases emits_evaluate_planSteps config settings.names selection fabric connects
    ⟨ready, none⟩ with ⟨events, evaluated, names, few⟩
  refine ⟨loading, ⟨events, evaluated, few⟩, names, ?_⟩
  intro changed position entry reported
  exact runSteps_agreesOnSkips (planSteps_isSkippedAlike config settings.names selection) _ _
    reported

/-! ## Any backends, and the production backends -/

/--
For every store, all settings, every selection of steps and any backends: a plan that
succeeds is dry.  Its evaluation does nothing but connect once at most, and through
the production backends it runs no command but the one for the version of `kubectl`.
-/
theorem evaluatePlan_connects_at_most {σ Handle : Type} [Journal σ] (store : AnswerStore σ)
    (settings : Settings) (selection : StepSelection)
    (start ready : Traced σ (OuterEvent Handle)) :
    (∀ (fabric : Fabric σ) (balancer : LoadBalancer σ Handle) steps,
      Engine.plan ⟨store.traced .store, settings⟩ selection (fabric.traced .fabric)
        (balancer.traced .balancer) start = (.ok steps, ready) →
      IsDryRun selection.names (fun event => ∃ key reply, event = .store (.load key reply))
        (fun event => ∃ reply, event = .balancer (.connect reply)) start ready steps) ∧
    (∀ (invoker : Invoker σ) isFile steps,
      Engine.plan ⟨store.traced .store, settings⟩ selection
        (productionFabric settings (invoker.traced .command))
        (productionBalancer settings (invoker.traced .command) isFile) start =
          (.ok steps, ready) →
      IsDryRun selection.names (fun event => ∃ key reply, event = .store (.load key reply))
        (fun event => ∃ reply, event = .command
          (Kubectl.versionCommand
            ⟨settings.loadBalancer.program, settings.loadBalancer.kubeconfig⟩) reply)
        start ready steps) := by
  constructor
  · intro fabric balancer steps planned
    exact isDryRun_of_plan (balancer.emits_connect_traced OuterEvent.balancer) planned
  · intro invoker isFile steps planned
    have connects := Kubectl.emits_connect_traced
      ⟨settings.loadBalancer.program, settings.loadBalancer.kubeconfig⟩ invoker
      (OuterEvent.command : _ → _ → OuterEvent Handle) isFile
    exact isDryRun_of_plan connects planned

/-- Both steps are reported when `kubectl` does not run, and only its version was asked for. -/
theorem evaluatePlan_connects_at_most_without_kubectl :
    let world : ScriptedWorld :=
      ⟨smallAnswers, .ofReplies [.error (.executionFailed "no such file")]⟩
    let start : Traced ScriptedWorld (OuterEvent Kubectl) := ⟨world, []⟩
    let store := Memory.store ScriptedWorld.memoryPart
    let fabric := productionFabric {} ScriptedWorld.invoker
    let balancer := productionBalancer {} ScriptedWorld.invoker fun _ _ => true
    (∃ steps ready,
      Engine.plan ⟨store.traced .store, {}⟩ .all (fabric.traced .fabric)
        (balancer.traced .balancer) start = (.ok steps, ready) ∧
      IsDryRun ["spaces", "pools"] (fun event => ∃ key reply, event = .store (.load key reply))
        (fun event => ∃ reply, event = .balancer (.connect reply)) start ready steps) ∧
    (∃ steps ready,
      Engine.plan ⟨store.traced .store, {}⟩ .all
        (productionFabric {} (ScriptedWorld.invoker.traced .command))
        (productionBalancer {} (ScriptedWorld.invoker.traced .command) fun _ _ => true) start =
          (.ok steps, ready) ∧
      IsDryRun ["spaces", "pools"] (fun event => ∃ key reply, event = .store (.load key reply))
        (fun event => ∃ reply, event = .command ⟨["kubectl", "version", "--client"], none⟩ reply)
        start ready steps) := by
  intro world start store fabric balancer
  have dry := evaluatePlan_connects_at_most store {} .all start
  exact ⟨⟨_, _, rfl, (dry _).1 fabric balancer _ rfl⟩,
    ⟨_, _, rfl, (dry _).2 ScriptedWorld.invoker (fun _ _ => true) _ rfl⟩⟩

end NetworkIsolation.Reconcile
