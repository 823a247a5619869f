import NetworkIsolation.Proofs.Reconcile.Runner
import NetworkIsolation.Proofs.Reconcile.Stretches
import NetworkIsolation.Reconcile.Engine

/-!
# A run stops at the first fatal reply

A plan is run on the production backends, which issue all their commands through
one script.  The judgement on the steps is put together by induction on the plan:
a step that does not fail is followed by the next one, and a step that fails is
the last one, so a fatal reply is the last of the whole run.

The main statement says it for the plans that come out of stored answers.
-/

namespace NetworkIsolation.Reconcile

open NetworkIsolation.Backend NetworkIsolation.Configuration NetworkIsolation.Json
open NetworkIsolation.Store

/-- Whether the step of a report failed. -/
@[simp]
def StepReport.isFailed (report : StepReport) : Bool :=
  report.status = .failed

/-- What a visit emits: a stretch, unless the step cannot begin because something is missing. -/
def Visited (missing : String → Prop) (report : StepReport) (exchanges : List Exchange) : Prop :=
  Stretch report.name report.isFailed exchanges ∨
    report.isFailed = true ∧ missing report.name ∧ exchanges = []

/--
What a run over named steps reports and emits: stretches that end well, one for
each step, up to a step that fails.
-/
inductive RunOf (missing : String → Prop) :
    List String → List StepReport → List Exchange → Prop where
  | finished : RunOf missing [] [] []
  | goesOn {report names reports exchanges further} (well : report.isFailed = false)
      (stretch : Stretch report.name false exchanges)
      (rest : RunOf missing names reports further) :
      RunOf missing (report.name :: names) (report :: reports) (exchanges ++ further)
  | stops {report names exchanges} (badly : report.isFailed = true)
      (stretch : Stretch report.name true exchanges) :
      RunOf missing (report.name :: names) [report] exchanges
  | cannotBegin {report names} (badly : report.isFailed = true) (absent : missing report.name) :
      RunOf missing (report.name :: names) [report] []

namespace RunOf

variable {missing : String → Prop} {names : List String} {reports : List StepReport}
  {exchanges : List Exchange}

theorem replaced (run : RunOf missing names reports exchanges) : CreationsReplaced exchanges := by
  induction run with
  | finished => trivial
  | goesOn well stretch rest induction_hypothesis =>
      exact stretch.replaced.append induction_hypothesis
  | stops badly stretch => exact stretch.replaced
  | cannotBegin badly absent => trivial

theorem name_mem (run : RunOf missing names reports exchanges) {report : StepReport}
    (member : report ∈ reports) : report.name ∈ names := by
  induction run with
  | finished => simp at member
  | goesOn well stretch rest induction_hypothesis =>
      rcases List.mem_cons.mp member with rfl | member
      · exact List.mem_cons_self
      · exact List.mem_cons_of_mem _ (induction_hypothesis member)
  | stops badly stretch =>
      rcases List.mem_singleton.mp member with rfl
      exact List.mem_cons_self
  | cannotBegin badly absent =>
      rcases List.mem_singleton.mp member with rfl
      exact List.mem_cons_self

/-- A fatal reply is the last one, and the last report says that its step failed. -/
theorem fatal_is_last (run : RunOf missing names reports exchanges) {position : Nat}
    {exchange : Exchange} (found : exchanges[position]? = some exchange)
    (fatal : exchange.isFatal = true) :
    position + 1 = exchanges.length ∧
      ∃ report, reports.getLast? = some report ∧ report.status = .failed ∧
        report.name = exchange.step := by
  induction run generalizing position with
  | finished => simp at found
  | @goesOn report names reports exchanges further well stretch rest induction_hypothesis =>
      have calm : Calm exchanges := by simpa using stretch.ending
      by_cases inside : position < exchanges.length
      · rw [List.getElem?_append_left inside] at found
        have harmless := calm exchange (List.mem_of_getElem? found)
        rw [harmless] at fatal
        cases fatal
      · have beyond : exchanges.length ≤ position := Nat.le_of_not_lt inside
        rw [List.getElem?_append_right beyond] at found
        rcases induction_hypothesis found with ⟨last, final, lastReport, failed, name⟩
        refine ⟨?_, final, ?_, failed, name⟩
        · rw [List.length_append]
          omega
        · rw [List.getLast?_cons, lastReport]
          rfl
  | @stops report names exchanges badly stretch =>
      obtain ⟨calm, last, rfl, isCalm, _⟩ : EndsFatally exchanges := by simpa using stretch.ending
      have atEnd : position = calm.length := by
        rcases Nat.lt_trichotomy position calm.length with before | same | after
        · rw [List.getElem?_append_left before] at found
          have harmless := isCalm exchange (List.mem_of_getElem? found)
          rw [harmless] at fatal
          cases fatal
        · exact same
        · have short : (calm ++ [last]).length ≤ position := by
            simp only [List.length_append, List.length_singleton]
            omega
          rw [List.getElem?_eq_none short] at found
          cases found
      refine ⟨by simp [atEnd], report, rfl, by simpa using badly, ?_⟩
      exact (stretch.issued exchange (List.mem_of_getElem? found)).symm
  | cannotBegin badly absent => simp at found

/--
A failed step got a fatal reply, and it was the last of the run, or the step
could not begin and no command of it was issued.
-/
theorem failure_has_cause (run : RunOf missing names reports exchanges) (distinct : names.Nodup)
    {report : StepReport} (member : report ∈ reports) (failed : report.isFailed = true) :
    (∃ exchange, exchanges.getLast? = some exchange ∧ exchange.isFatal = true ∧
        exchange.step = report.name) ∨
      missing report.name ∧ Calm exchanges ∧
        ∀ exchange ∈ exchanges, exchange.step ≠ report.name := by
  induction run with
  | finished => simp at member
  | @goesOn first names reports exchanges further well stretch rest induction_hypothesis =>
      rcases List.nodup_cons.mp distinct with ⟨fresh, distinct⟩
      have later : report ∈ reports := by
        rcases List.mem_cons.mp member with rfl | later
        · rw [well] at failed
          cases failed
        · exact later
      rcases induction_hypothesis distinct later with
        ⟨exchange, last, fatal, name⟩ | ⟨absent, calm, others⟩
      · refine Or.inl ⟨exchange, ?_, fatal, name⟩
        rw [List.getLast?_append, last]
        rfl
      · refine Or.inr ⟨absent, Calm.append (by simpa using stretch.ending) calm, ?_⟩
        intro exchange member
        rcases List.mem_append.mp member with member | member
        · rw [stretch.issued exchange member]
          intro same
          exact fresh (same ▸ rest.name_mem later)
        · exact others exchange member
  | @stops only names exchanges badly stretch =>
      rcases List.mem_singleton.mp member with rfl
      obtain ⟨calm, last, rfl, isCalm, fatal⟩ : EndsFatally exchanges := by
        simpa using stretch.ending
      exact Or.inl ⟨last, by simp, fatal, stretch.issued last (by simp)⟩
  | cannotBegin badly absent =>
      rcases List.mem_singleton.mp member with rfl
      exact Or.inr ⟨absent, by simp [Calm], by simp⟩

end RunOf

section

variable {σ Handle : Type} [Journal σ] {observation : Observation σ Exchange}
  {missing : String → Prop}

/-- If every visit is a stretch, then the whole plan is a run of stretches. -/
theorem emits_runSteps {onApply : Step σ → StateM σ Unit} (steps : List (Step σ))
    (each : ∀ step ∈ steps, observation.Emits (visitStep onApply step) fun report exchanges =>
      report.name = step.name ∧ Visited missing report exchanges) :
    observation.Emits (runSteps onApply steps) fun reports exchanges =>
      RunOf missing (steps.map Step.name) reports exchanges := by
  induction steps with
  | nil => exact Observation.emits_pure .finished
  | cons step steps induction_hypothesis =>
      rw [runSteps_cons]
      refine (each step List.mem_cons_self).bind ?_
      rintro report exchanges ⟨name, visited⟩
      rw [List.map_cons, ← name]
      by_cases failed : report.status = .failed
      · rw [if_pos failed]
        refine Observation.emits_pure ?_
        rw [List.append_nil]
        rcases visited with stretch | ⟨badly, absent, rfl⟩
        · exact .stops (by simpa using failed) (by simpa [failed] using stretch)
        · exact .cannotBegin badly absent
      · rw [if_neg failed]
        refine (induction_hypothesis fun other member =>
          each other (List.mem_cons_of_mem _ member)).bind ?_
        intro reports further run
        refine Observation.emits_pure ?_
        rw [List.append_nil]
        rcases visited with stretch | ⟨badly, absent, rfl⟩
        · exact .goesOn (by simpa using failed) (by simpa [failed] using stretch) run
        · exact absurd (by simpa using badly) failed

/-- A visit applies its step only after the check has said that there is something to do. -/
theorem emitsAt_visitStep (silent : observation.Silent) {state : σ} {step : Step σ}
    (checked : observation.EmitsAt state step.isApplicable fun applicability exchanges =>
      Stretch step.name applicability.isFailed exchanges ∨
        applicability.isFailed = true ∧ missing step.name ∧ exchanges = [])
    (applied : (step.isApplicable state).1 = .ready → ∀ entry,
      observation.EmitsAt (Journal.record entry (step.isApplicable state).2) step.apply
        fun outcome exchanges => Stretch step.name outcome.isFailed exchanges) :
    observation.EmitsAt state (visitStep (fun _ => pure ()) step) fun report exchanges =>
      report.name = step.name ∧ Visited missing report exchanges := by
  refine checked.bind ?_
  intro exchanges visited
  cases check : (step.isApplicable state).1 with
  | skipped reason =>
      refine Observation.EmitsAt.after_note silent (Observation.emits_pure ⟨rfl, ?_⟩ _)
      simpa [check, Visited] using visited
  | failed reason =>
      refine Observation.EmitsAt.after_note silent (Observation.emits_pure ⟨rfl, ?_⟩ _)
      simpa [check, Visited] using visited
  | ready =>
      have begun : Stretch step.name false exchanges := by simpa [check] using visited
      refine Observation.EmitsAt.after_note silent ?_
      rw [pure_bind]
      refine (applied check _).bind ?_
      intro further stretch
      generalize step.apply _ = ended at stretch ⊢
      rcases ended with ⟨outcome, last⟩
      cases outcome with
      | completed =>
          refine Observation.emits_pure ⟨rfl, Or.inl ?_⟩ _
          simpa using begun.append stretch
      | failed reason =>
          refine Observation.EmitsAt.after_note silent
            (Observation.emits_pure ⟨rfl, Or.inl ?_⟩ _)
          simpa using begun.append stretch

/-! ## The two steps -/

omit [Journal σ] in
theorem Session.worldPart_lawful : (Session.worldPart : Part σ (Session σ Handle)).Lawful := by
  intro world session
  rfl

theorem Session.silent (silent : observation.Silent) :
    (observation.lift (Session.worldPart : Part σ (Session σ Handle))).Silent := by
  intro entry session
  exact silent entry session.world

variable {fabric : Fabric σ} {balancer : LoadBalancer σ Handle} {absent : Prop}

theorem emits_visit_spacesStep (silent : observation.Silent)
    (stretches : fabric.Stretches observation) (reconciler : SpaceReconciler) :
    (observation.lift Session.worldPart).Emits
      (visitStep (fun _ => pure ()) (spacesStep reconciler fabric : Step (Session σ Handle)))
      fun report exchanges => report.name = "spaces" ∧ Visited missing report exchanges := by
  intro session
  refine emitsAt_visitStep (Session.silent silent) ?_ ?_
  · refine Observation.emits_pure (Or.inl ?_) session
    have never : reconciler.isApplicable.isFailed = false := by
      rw [SpaceReconciler.isApplicable]
      split
      · rfl
      · split <;> rfl
    rw [never]
    exact Stretch.empty
  · intro ready entry
    have emits := SpaceReconciler.emits_apply silent stretches reconciler
    refine Observation.EmitsAt.bind (emits.lift Session.worldPart_lawful _) ?_
    intro exchanges stretch
    refine Observation.emits_pure ?_ _
    rw [List.append_nil]
    exact stretch

theorem emits_visit_poolsStep (silent : observation.Silent)
    (pools : balancer.Stretches observation absent)
    (applications : fabric.Stretches observation) (reconciler : PoolReconciler)
    (implies : absent → missing "pools") :
    (observation.lift Session.worldPart).Emits
      (visitStep (fun _ => pure ()) (poolsStep reconciler balancer fabric))
      fun report exchanges => report.name = "pools" ∧ Visited missing report exchanges := by
  intro session
  refine emitsAt_visitStep (Session.silent silent) ?_ ?_
  · obtain ⟨exchanges, reached, fact⟩ :=
      PoolReconciler.emits_isApplicable pools reconciler session.handle session.world
    refine ⟨exchanges, reached, ?_⟩
    rcases fact with stretch | ⟨failed, cause, empty⟩
    · exact Or.inl stretch
    · exact Or.inr ⟨failed, implies cause, empty⟩
  · intro ready entry
    obtain ⟨handle, held⟩ :=
      reconciler.exists_handle_of_ready balancer session.handle session.world ready
    have emits := PoolReconciler.emits_apply silent pools applications reconciler handle
    generalize after :
      Journal.record entry ((poolsStep reconciler balancer fabric).isApplicable session).2 = begun
    have kept : begun.handle = some handle := by
      rw [← after]
      exact held
    have ended : (poolsStep reconciler balancer fabric).apply begun =
        ((reconciler.apply balancer fabric (some handle) begun.world).1.1,
          ⟨(reconciler.apply balancer fabric (some handle) begun.world).2,
            (reconciler.apply balancer fabric (some handle) begun.world).1.2.handle⟩) := by
      rw [← kept]
      rfl
    rw [Observation.EmitsAt, ended]
    exact emits begun.world

end

/-! ## Runs of stored configurations -/

/-- Stored answers, and a script of replies to commands. -/
structure ScriptedWorld where
  memory : Memory
  script : Script

namespace ScriptedWorld

/-- The answers of a scripted world. -/
def memoryPart : Part Memory ScriptedWorld where
  get := ScriptedWorld.memory
  set memory world := { world with memory }

/-- The script of a scripted world. -/
def scriptPart : Part Script ScriptedWorld where
  get := ScriptedWorld.script
  set script world := { world with script }

/-- Notes are not part of a scripted world. -/
instance : Journal ScriptedWorld where
  record _ world := world

/-- All commands of a scripted world go through its script. -/
def invoker : Invoker ScriptedWorld :=
  Script.invoker.lift scriptPart

/-- A scripted world is observed by the exchanges with its script. -/
def observation : Observation ScriptedWorld Exchange :=
  Script.observation.lift scriptPart

theorem observation_silent : observation.Silent := by
  intro entry world
  exact Script.Reaches.stays world.script

theorem invoker_observedBy : invoker.ObservedBy observation := by
  intro command
  exact (Script.emits_run command).lift fun _ _ => rfl

/-- The engine over the stored answers. -/
def engine (settings : Settings) : Engine ScriptedWorld :=
  ⟨Memory.store memoryPart, settings⟩

/-- Run the plan of the stored configuration on the production backends. -/
def run (settings : Settings) (selection : StepSelection) (isFile : String → Bool) :
    StateM ScriptedWorld (Except EngineError PlanReport) := do
  let fabric := productionFabric settings invoker
  let balancer := productionBalancer settings invoker fun _ => isFile
  match ← (engine settings).plan selection fabric balancer with
  | .error error => return .error error
  | .ok steps =>
    let report ← Session.within (runPlan steps)
    return .ok report

end ScriptedWorld

/-- The exchanges of commands with the replies of a script, by position. -/
def exchangesOf (replies : List (Reply String)) (commands : List Command) : List Exchange :=
  commands.mapIdx fun position command =>
    ⟨command, (Script.ofReplies replies).replyAt position⟩

theorem exchangesOf_eq {replies : List (Reply String)} {exchanges : List Exchange}
    {after : Script} (reached : (Script.ofReplies replies).Reaches exchanges after) :
    exchangesOf replies after.commands = exchanges := by
  have commands : after.commands = exchanges.map Exchange.command := reached.commands
  apply List.ext_getElem?
  intro position
  rw [exchangesOf, commands, List.getElem?_mapIdx, List.getElem?_map]
  cases found : exchanges[position]? with
  | none => rfl
  | some exchange =>
      have reply := reached.answers position exchange found
      simp [← reply]

/-- The pools cannot be begun when the credentials that are asked for are not there. -/
def CannotBegin (settings : Settings) (isFile : String → Bool) (name : String) : Prop :=
  name = "pools" ∧ ∃ path, settings.loadBalancer.kubeconfig = some path ∧ isFile path = false

/-- The steps of a plan on the production backends are a run of stretches. -/
theorem emits_planSteps (settings : Settings) (selection : StepSelection)
    (isFile : String → Bool) (config : IsolationConfig) :
    (ScriptedWorld.observation.lift Session.worldPart).Emits
      (runSteps (fun _ => pure ())
        (planSteps config settings.names selection
          (productionFabric settings ScriptedWorld.invoker)
          (productionBalancer settings ScriptedWorld.invoker fun _ => isFile)))
      fun reports exchanges => ∃ names : List String, names.Nodup ∧
        RunOf (CannotBegin settings isFile) names reports exchanges := by
  have silent := ScriptedWorld.observation_silent
  have fabric := Juju.fabric_stretches ⟨settings.fabric.program, settings.fabric.model⟩
    ScriptedWorld.invoker_observedBy
  have balancer := Kubectl.balancer_stretches silent ScriptedWorld.invoker_observedBy
    ⟨settings.loadBalancer.program, settings.loadBalancer.kubeconfig⟩ isFile
  cases selection with
  | all =>
      refine (emits_runSteps _ ?_).mono fun _ _ run => ⟨["spaces", "pools"], by decide, run⟩
      intro step member
      rcases List.mem_cons.mp member with rfl | member
      · exact emits_visit_spacesStep silent fabric _
      · rcases List.mem_singleton.mp member with rfl
        exact emits_visit_poolsStep silent balancer fabric _ fun cause => ⟨rfl, cause⟩
  | spaces =>
      refine (emits_runSteps _ ?_).mono fun _ _ run => ⟨["spaces"], by decide, run⟩
      intro step member
      rcases List.mem_singleton.mp member with rfl
      exact emits_visit_spacesStep silent fabric _
  | pools =>
      refine (emits_runSteps _ ?_).mono fun _ _ run => ⟨["pools"], by decide, run⟩
      intro step member
      rcases List.mem_singleton.mp member with rfl
      exact emits_visit_poolsStep silent balancer fabric _ fun cause => ⟨rfl, cause⟩

theorem ScriptedWorld.loadConfig_snd (settings : Settings) (world : ScriptedWorld) :
    ((ScriptedWorld.engine settings).loadConfig world).2 = world := by
  have loaded : ∀ key, (ScriptedWorld.engine settings).loadBucket key world =
      (.ok (world.memory.load key), world) := fun _ => rfl
  rw [Engine.loadConfig]
  simp only [run_bind, loaded]
  cases IsolationConfig.ofAnswers (world.memory.load isolationKey)
      (world.memory.load addonsKey) with
  | error cause => rfl
  | ok config => rfl

/-- A configuration that is accepted is run from where it was loaded. -/
theorem ScriptedWorld.run_eq (settings : Settings) (selection : StepSelection)
    (isFile : String → Bool) {world : ScriptedWorld} {config : IsolationConfig}
    (accepted : ((ScriptedWorld.engine settings).loadConfig world).1 = .ok config) :
    ScriptedWorld.run settings selection isFile world =
      let ended := runSteps (fun _ => pure ())
        (planSteps config settings.names selection
          (productionFabric settings ScriptedWorld.invoker)
          (productionBalancer settings ScriptedWorld.invoker fun _ => isFile))
        ⟨world, none⟩
      (.ok ⟨ended.1⟩, ended.2.world) := by
  have loaded : (ScriptedWorld.engine settings).loadConfig world = (.ok config, world) :=
    Prod.ext accepted (ScriptedWorld.loadConfig_snd settings world)
  simp only [ScriptedWorld.run, run_bind, Engine.plan, loaded, run_pure]
  rfl

/-- A run reports what a run of stretches reports, and issues its exchanges. -/
theorem ScriptedWorld.exists_runOf (settings : Settings) (selection : StepSelection)
    (isFile : String → Bool) {world : ScriptedWorld} {config : IsolationConfig}
    (accepted : ((ScriptedWorld.engine settings).loadConfig world).1 = .ok config) :
    ∃ report after exchanges, ∃ names : List String,
      ScriptedWorld.run settings selection isFile world = (.ok report, after) ∧
      world.script.Reaches exchanges after.script ∧ names.Nodup ∧
      RunOf (CannotBegin settings isFile) names report.steps exchanges := by
  obtain ⟨exchanges, reached, names, distinct, run⟩ :=
    emits_planSteps settings selection isFile config ⟨world, none⟩
  exact ⟨_, _, exchanges, names, run_eq settings selection isFile accepted, reached, distinct, run⟩

/-- What a report and the exchanges of its run have to do with each other. -/
structure FailStop (settings : Settings) (isFile : String → Bool) (report : PlanReport)
    (exchanges : List Exchange) : Prop where
  /-- A fatal reply is the last one, and its step failed as the last of the report. -/
  fatal_is_last : ∀ position exchange, exchanges[position]? = some exchange →
    exchange.isFatal = true →
      position + 1 = exchanges.length ∧
        ∃ entry, report.steps.getLast? = some entry ∧ entry.status = .failed ∧
          entry.name = exchange.step
  /-- The command after a refused creation is a replacement, fed with the same text. -/
  creation_is_replaced : ∀ position exchange, exchanges[position]? = some exchange →
    exchange.isRefusedCreation = true →
      ∃ next, exchanges[position + 1]? = some next ∧ next.Replaces exchange
  /--
  A step failed because its last reply was fatal, or because it is the pools step
  without its credentials, and then none of its commands was issued.
  -/
  failure_has_cause : ∀ entry ∈ report.steps, entry.status = .failed →
    (∃ exchange, exchanges.getLast? = some exchange ∧ exchange.isFatal = true ∧
      exchange.step = entry.name) ∨
    entry.name = "pools" ∧
      (∃ path, settings.loadBalancer.kubeconfig = some path ∧ isFile path = false) ∧
      ∀ exchange ∈ exchanges, exchange.isFatal = false ∧ exchange.step ≠ "pools"

/--
For all settings, stored answers that are accepted, selections of steps and
scripts of replies: a run on the production backends gives a report, and it stops
at the first fatal reply.
-/
theorem run_stops_at_fatal_reply (settings : Settings) (selection : StepSelection)
    (isFile : String → Bool) (memory : Memory) (replies : List (Reply String))
    (config : IsolationConfig)
    (accepted : ((ScriptedWorld.engine settings).loadConfig
      ⟨memory, .ofReplies replies⟩).1 = .ok config) :
    ∃ report after,
      ScriptedWorld.run settings selection isFile ⟨memory, .ofReplies replies⟩ =
        (.ok report, after) ∧
      FailStop settings isFile report (exchangesOf replies after.script.commands) := by
  obtain ⟨report, after, exchanges, names, ended, reached, distinct, run⟩ :=
    ScriptedWorld.exists_runOf settings selection isFile accepted
  refine ⟨report, after, ended, ?_⟩
  rw [exchangesOf_eq reached]
  refine ⟨?_, ?_, ?_⟩
  · intro position exchange found fatal
    exact run.fatal_is_last found fatal
  · intro position exchange found refused
    exact run.replaced.next found refused
  · intro entry member failed
    rcases run.failure_has_cause distinct member (by simpa using failed) with
      fatal | ⟨⟨name, absent⟩, calm, others⟩
    · exact Or.inl fatal
    · refine Or.inr ⟨name, absent, ?_⟩
      intro exchange issued
      exact ⟨calm exchange issued, name ▸ others exchange issued⟩

/-- Answers that ask for one space and one pool. -/
def smallAnswers : Memory :=
  (Memory.empty.save isolationKey
    (isolationBucket [("enable_isolation", .bool true),
      ("spaces", .object [("storage", spaceSpecValue ["10.0.0.0/24"])])])).save addonsKey
    (setPoolRanges [] ⟨some "10.1.0.1-10.1.0.9", none, none⟩)

/--
A creation is refused and replaced, and then the applications cannot be listed.  This eighth
reply is the fatal one: the ninth of the script is not asked for, and the second entry of the
report is the one that failed.
-/
theorem run_stops_when_applications_are_not_listed :
    let replies : List (Reply String) :=
      [.ok "\x7b\"spaces\":[]\x7d", .ok "", .error (.api "no"), .ok "", .error (.api "taken"),
        .ok "", .ok "", .error (.executionFailed "timeout"), .ok ""]
    let world : ScriptedWorld := ⟨smallAnswers, .ofReplies replies⟩
    ((ScriptedWorld.engine {}).loadConfig world).1 =
      .ok ⟨true, [⟨"storage", ["10.0.0.0/24"]⟩], ⟨some "10.1.0.1-10.1.0.9", none, none⟩⟩ ∧
    ∃ report after,
      ScriptedWorld.run {} .all (fun _ => true) world = (.ok report, after) ∧
      FailStop {} (fun _ => true) report (exchangesOf replies after.script.commands) ∧
      (exchangesOf replies after.script.commands).map Exchange.isRefusedCreation =
        [false, false, false, false, true, false, false, false] ∧
      (exchangesOf replies after.script.commands).map Exchange.isFatal =
        [false, false, false, false, false, false, false, true] ∧
      report.steps.map (fun entry => (entry.name, entry.status, entry.message)) =
        [("spaces", .completed, none),
          ("pools", .failed,
            some "unable to list applications: runtime execution failed: timeout")] := by
  intro replies world
  rcases run_stops_at_fatal_reply {} .all (fun _ => true) smallAnswers replies _ (by rfl) with
    ⟨report, after, ran, stops⟩
  have issued : (ScriptedWorld.run {} .all (fun _ => true) world).2.script.commands =
      after.script.commands := by rw [ran]
  have reported : (ScriptedWorld.run {} .all (fun _ => true) world).1 = .ok report := by rw [ran]
  refine ⟨by rfl, report, after, ran, stops, ?_, ?_, ?_⟩
  · rw [← issued]
    decide +kernel
  · rw [← issued]
    decide +kernel
  · have entries : (ScriptedWorld.run {} .all (fun _ => true) world).1.toOption.map
        (fun report => report.steps.map fun entry => (entry.name, entry.status, entry.message)) =
        some [("spaces", .completed, none),
          ("pools", .failed,
            some "unable to list applications: runtime execution failed: timeout")] := by
      decide +kernel
    rw [reported] at entries
    exact Option.some.inj entries

end NetworkIsolation.Reconcile
