import NetworkIsolation.Proofs.Backend.Exchange

/-!
# Stretches of exchanges

A stretch is a list of exchanges that one step issues in a row.  In every
stretch a refused creation is followed by the replacement at once.  A stretch
that ends well has no fatal reply; one that ends badly has exactly one, and it
is the last.

Every operation of the production backends is one exchange, and this file says
for each of them which stretch it is.
-/

namespace NetworkIsolation.Backend

/-- No reply is fatal. -/
def Calm (exchanges : List Exchange) : Prop :=
  ∀ exchange ∈ exchanges, exchange.isFatal = false

/-- The last reply is fatal and no other is. -/
def EndsFatally (exchanges : List Exchange) : Prop :=
  ∃ calm last, exchanges = calm ++ [last] ∧ Calm calm ∧ last.isFatal = true

/-- Every refused creation is followed by the replacement at once. -/
def CreationsReplaced : List Exchange → Prop
  | [] => True
  | exchange :: rest =>
    (exchange.isRefusedCreation = true →
      ∃ next, rest.head? = some next ∧ next.Replaces exchange) ∧ CreationsReplaced rest

theorem Calm.append {exchanges further : List Exchange}
    (early : Calm exchanges) (late : Calm further) : Calm (exchanges ++ further) := by
  intro exchange member
  rcases List.mem_append.mp member with member | member
  · exact early exchange member
  · exact late exchange member

theorem EndsFatally.after {exchanges further : List Exchange}
    (early : Calm exchanges) (late : EndsFatally further) :
    EndsFatally (exchanges ++ further) := by
  rcases late with ⟨calm, last, rfl, isCalm, fatal⟩
  exact ⟨exchanges ++ calm, last, (List.append_assoc _ _ _).symm, early.append isCalm, fatal⟩

theorem CreationsReplaced.append {exchanges further : List Exchange}
    (early : CreationsReplaced exchanges) (late : CreationsReplaced further) :
    CreationsReplaced (exchanges ++ further) := by
  induction exchanges with
  | nil => exact late
  | cons exchange rest induction_hypothesis =>
      refine ⟨?_, induction_hypothesis early.2⟩
      intro refused
      rcases early.1 refused with ⟨next, found, replaces⟩
      refine ⟨next, ?_, replaces⟩
      cases rest with
      | nil => simp at found
      | cons first rest => exact found

/-- After the position of a refused creation stands its replacement. -/
theorem CreationsReplaced.next {exchanges : List Exchange}
    (replaced : CreationsReplaced exchanges) {position : Nat} {exchange : Exchange}
    (found : exchanges[position]? = some exchange)
    (refused : exchange.isRefusedCreation = true) :
    ∃ next, exchanges[position + 1]? = some next ∧ next.Replaces exchange := by
  induction exchanges generalizing position with
  | nil => simp at found
  | cons first rest induction_hypothesis =>
      cases position with
      | zero =>
          cases found
          rcases replaced.1 refused with ⟨next, head, replaces⟩
          refine ⟨next, ?_, replaces⟩
          rw [List.getElem?_cons_succ, ← head, List.head?_eq_getElem?]
      | succ position =>
          exact induction_hypothesis replaced.2 found

/-- The exchanges that a step issues in a row, and whether they end with a fatal reply. -/
structure Stretch (step : String) (failed : Bool) (exchanges : List Exchange) : Prop where
  issued : ∀ exchange ∈ exchanges, exchange.step = step
  replaced : CreationsReplaced exchanges
  ending : if failed then EndsFatally exchanges else Calm exchanges

namespace Stretch

variable {step : String}

theorem empty : Stretch step false [] where
  issued := by simp
  replaced := trivial
  ending := by simp [Calm]

theorem append {failed : Bool} {exchanges further : List Exchange}
    (early : Stretch step false exchanges) (late : Stretch step failed further) :
    Stretch step failed (exchanges ++ further) where
  issued := by
    intro exchange member
    rcases List.mem_append.mp member with member | member
    · exact early.issued exchange member
    · exact late.issued exchange member
  replaced := early.replaced.append late.replaced
  ending := by
    have calm : Calm exchanges := by simpa using early.ending
    cases failed with
    | false => simpa using calm.append (by simpa using late.ending)
    | true => simpa using EndsFatally.after calm (by simpa using late.ending)

/-- One exchange that is no refused creation is a stretch. -/
theorem single {exchange : Exchange} (issued : exchange.step = step)
    (noCreation : exchange.isRefusedCreation = false) :
    Stretch step exchange.isFatal [exchange] where
  issued := by simp [issued]
  replaced := by simp [CreationsReplaced, noCreation]
  ending := by
    cases fatal : exchange.isFatal with
    | false => simp [Calm, fatal]
    | true => simpa using ⟨[], exchange, rfl, by simp [Calm], fatal⟩

end Stretch

/-! ## The production backends -/

/-- Running a command through the invoker is one exchange. -/
def Invoker.ObservedBy {σ : Type} (invoker : Invoker σ)
    (observation : Observation σ Exchange) : Prop :=
  ∀ command, observation.Emits (invoker.run command) fun reply exchanges =>
    exchanges = [⟨command, reply⟩]

section Production

variable {σ : Type} {observation : Observation σ Exchange} {invoker : Invoker σ}

/--
A query is a stretch that fails when its reply is a refusal, if its command may
not be refused and its output is unreadable just when the query fails.
-/
theorem Juju.emits_query {α : Type} (observed : invoker.ObservedBy observation)
    {command : Command} {read : String → Reply α} {verb step : String}
    (does : command.verb = verb) (issued : stepOf verb = step) (noCreation : verb ≠ "create")
    (refusing : isTolerated verb = false)
    (reading : ∀ output, isReadable verb output = !isRefusal (read output)) :
    observation.Emits (query invoker command read) fun reply exchanges =>
      Stretch step (isRefusal reply) exchanges := by
  subst does
  refine (observed command).bind ?_
  rintro reply exchanges rfl
  have single : Stretch step (Exchange.isFatal ⟨command, reply⟩) [⟨command, reply⟩] :=
    Stretch.single issued (by simp [Exchange.isRefusedCreation, noCreation])
  cases reply with
  | ok output =>
      refine Observation.emits_pure ?_
      have fatal : Exchange.isFatal ⟨command, .ok output⟩ = isRefusal (read output) := by
        simp [Exchange.isFatal, reading]
      simpa [fatal] using single
  | error error =>
      refine Observation.emits_pure ?_
      simpa [Exchange.isFatal, refusing] using single

/-- A query that may be refused never ends the run. -/
theorem Juju.emits_tolerated_query (observed : invoker.ObservedBy observation)
    {command : Command} {verb step : String} (does : command.verb = verb)
    (issued : stepOf verb = step) (noCreation : verb ≠ "create")
    (tolerated : isTolerated verb = true) (unread : ∀ output, isReadable verb output = true) :
    observation.Emits (query invoker command fun _ => .ok ()) fun _ exchanges =>
      Stretch step false exchanges := by
  subst does
  refine (observed command).bind ?_
  rintro reply exchanges rfl
  have harmless : Exchange.isFatal ⟨command, reply⟩ = false := by
    cases reply <;> simp [Exchange.isFatal, tolerated, unread]
  have single : Stretch step (Exchange.isFatal ⟨command, reply⟩) [⟨command, reply⟩] :=
    Stretch.single issued (by simp [Exchange.isRefusedCreation, noCreation])
  rw [harmless] at single
  cases reply with
  | ok output => exact Observation.emits_pure (by simpa using single)
  | error error => exact Observation.emits_pure (by simpa using single)

/-- What each operation of a fabric emits; two of them never end the run. -/
structure Fabric.Stretches (fabric : Fabric σ) (observation : Observation σ Exchange) : Prop where
  listSpaces : observation.Emits fabric.listSpaces fun reply exchanges =>
    Stretch "spaces" (isRefusal reply) exchanges
  addSpace : ∀ name subnets, observation.Emits (fabric.addSpace name subnets)
    fun reply exchanges => Stretch "spaces" (isRefusal reply) exchanges
  setSpaceSubnets : ∀ name subnets, observation.Emits (fabric.setSpaceSubnets name subnets)
    fun _ exchanges => Stretch "spaces" false exchanges
  setModelConfig : ∀ assignment, observation.Emits (fabric.setModelConfig assignment)
    fun _ exchanges => Stretch "spaces" false exchanges
  listApplications : observation.Emits fabric.listApplications fun reply exchanges =>
    Stretch "pools" (isRefusal reply) exchanges
  setApplicationConfig : ∀ application assignment jsonOutput,
    observation.Emits (fabric.setApplicationConfig application assignment jsonOutput)
      fun reply exchanges => Stretch "pools" (isRefusal reply) exchanges

theorem Juju.fabric_stretches (juju : Juju) (observed : invoker.ObservedBy observation) :
    (juju.fabric invoker).Stretches observation where
  listSpaces := by
    have does : (juju.command ["spaces", "--format", "json"]).verb = "spaces" := rfl
    exact emits_query observed does rfl (by decide) rfl (fun _ => rfl)
  addSpace name subnets := by
    have does : (juju.command (["add-space", name] ++ subnets)).verb = "add-space" := rfl
    exact emits_query observed does rfl (by decide) rfl (fun _ => rfl)
  setSpaceSubnets name subnets := by
    have does : (juju.command (["set-space-subnets", name] ++ subnets)).verb =
        "set-space-subnets" := rfl
    exact emits_tolerated_query observed does rfl (by decide) rfl (fun _ => rfl)
  setModelConfig assignment := by
    have does : (juju.modelConfigCommand assignment).verb = "model-config" := rfl
    exact emits_tolerated_query observed does rfl (by decide) rfl (fun _ => rfl)
  listApplications := by
    have does : (juju.command ["status", "--format", "json"]).verb = "status" := rfl
    exact emits_query observed does rfl (by decide) rfl (fun _ => rfl)
  setApplicationConfig application assignment jsonOutput := by
    have does : (juju.applicationConfigCommand application assignment jsonOutput).verb =
        "config" := rfl
    exact emits_query observed does rfl (by decide) rfl (fun _ => rfl)

/--
What each operation of a load balancer emits.  A connection may also fail without
any exchange, because something that it needs is `missing`.
-/
structure LoadBalancer.Stretches {Handle : Type} (balancer : LoadBalancer σ Handle)
    (observation : Observation σ Exchange) (missing : Prop) : Prop where
  connect : observation.Emits balancer.connect fun reply exchanges =>
    Stretch "pools" (isRefusal reply) exchanges ∨
      isRefusal reply = true ∧ missing ∧ exchanges = []
  create : ∀ handle resource, observation.Emits (balancer.create handle resource)
    fun reply exchanges => ∃ exchange, exchanges = [exchange] ∧
      exchange.step = "pools" ∧ exchange.isFatal = false ∧
      exchange.isRefusedCreation = isRefusal reply ∧
      exchange.command.input = some resource.manifest.compact
  replace : ∀ handle (resource : Resource),
    observation.Emits (balancer.replace handle resource.target resource)
      fun reply exchanges => ∃ exchange, exchanges = [exchange] ∧
        exchange.step = "pools" ∧ exchange.isFatal = isRefusal reply ∧
        exchange.command.verb = "replace" ∧
        exchange.command.input = some resource.manifest.compact

theorem Kubectl.verb_submitCommand (kubectl : Kubectl) {verb : String}
    (noOption : verb ≠ "--kubeconfig") (resource : Resource) :
    (kubectl.submitCommand verb resource).verb = verb := by
  cases credentials : kubectl.kubeconfig with
  | none => simp [Command.verb, submitCommand, line, credentials, noOption]
  | some path => simp [Command.verb, submitCommand, line, credentials]

theorem Kubectl.verb_versionCommand (kubectl : Kubectl) :
    kubectl.versionCommand.verb = "version" := by
  cases credentials : kubectl.kubeconfig with
  | none => simp [Command.verb, versionCommand, line, credentials]
  | some path => simp [Command.verb, versionCommand, line, credentials]

variable [Journal σ]

/-- Submitting a resource is one exchange with its manifest. -/
theorem Kubectl.emits_submit (silent : observation.Silent)
    (observed : invoker.ObservedBy observation) (kubectl : Kubectl) (verb : String)
    (resource : Resource) :
    observation.Emits (kubectl.submit invoker verb resource) fun reply exchanges =>
      ∃ output : Reply String, reply = output.map (fun _ => ()) ∧
        exchanges = [⟨kubectl.submitCommand verb resource, output⟩] := by
  refine Observation.Emits.after_note silent ?_
  refine (observed _).bind ?_
  rintro output exchanges rfl
  cases output with
  | ok text => exact Observation.emits_pure ⟨.ok text, rfl, rfl⟩
  | error error => exact Observation.emits_pure ⟨.error error, rfl, rfl⟩

/-- The credentials that `kubectl` is to use are not there. -/
def Kubectl.CredentialsMissing (kubectl : Kubectl) (isFile : String → Bool) : Prop :=
  ∃ path, kubectl.kubeconfig = some path ∧ isFile path = false

theorem Kubectl.missingKubeconfig?_eq_none_or (kubectl : Kubectl) (isFile : String → Bool) :
    kubectl.missingKubeconfig? isFile = none ∨
      kubectl.CredentialsMissing isFile ∧
        ∃ path, kubectl.missingKubeconfig? isFile = some path := by
  cases credentials : kubectl.kubeconfig with
  | none => exact Or.inl (by simp [missingKubeconfig?, credentials])
  | some path =>
      cases found : isFile path with
      | true => exact Or.inl (by simp [missingKubeconfig?, credentials, found])
      | false =>
          exact Or.inr ⟨⟨path, credentials, found⟩, path,
            by simp [missingKubeconfig?, credentials, found]⟩

omit [Journal σ] in
/-- Connecting runs one command, unless the credentials are missing. -/
theorem Kubectl.emits_connect (observed : invoker.ObservedBy observation) (kubectl : Kubectl)
    (isFile : String → Bool) :
    observation.Emits (kubectl.connect invoker fun _ => isFile) fun reply exchanges =>
      Stretch "pools" (isRefusal reply) exchanges ∨
        isRefusal reply = true ∧ kubectl.CredentialsMissing isFile ∧ exchanges = [] := by
  refine Observation.Emits.after_get fun state => ?_
  rcases kubectl.missingKubeconfig?_eq_none_or isFile with present | ⟨missing, path, absent⟩
  · rw [present]
    refine (observed kubectl.versionCommand).bind ?_
    rintro reply exchanges rfl
    have verb := kubectl.verb_versionCommand
    have single : Stretch "pools" (Exchange.isFatal ⟨kubectl.versionCommand, reply⟩)
        [⟨kubectl.versionCommand, reply⟩] :=
      Stretch.single (by simp [Exchange.step, verb, stepOf])
        (by simp [Exchange.isRefusedCreation, verb])
    have fatal : Exchange.isFatal ⟨kubectl.versionCommand, reply⟩ = isRefusal reply := by
      cases reply <;> simp [Exchange.isFatal, isTolerated, isReadable, verb]
    rw [fatal] at single
    cases reply with
    | ok output => exact Observation.emits_pure (Or.inl single)
    | error error => exact Observation.emits_pure (Or.inl single)
  · rw [absent]
    exact Observation.emits_pure (Or.inr ⟨rfl, missing, rfl⟩)

theorem Kubectl.balancer_stretches (silent : observation.Silent)
    (observed : invoker.ObservedBy observation) (kubectl : Kubectl) (isFile : String → Bool) :
    (kubectl.balancer invoker fun _ => isFile).Stretches observation
      (kubectl.CredentialsMissing isFile) where
  connect := emits_connect observed kubectl isFile
  create handle resource := by
    refine (emits_submit silent observed handle "create" resource).mono ?_
    rintro reply exchanges ⟨output, rfl, rfl⟩
    have verb : (handle.submitCommand "create" resource).verb = "create" :=
      handle.verb_submitCommand (by decide) resource
    refine ⟨_, rfl, ?_, ?_, ?_, rfl⟩
    · simp [Exchange.step, verb, stepOf]
    · cases output <;> simp [Exchange.isFatal, isTolerated, isReadable, verb]
    · simp [Exchange.isRefusedCreation, verb]
  replace handle resource := by
    have own : handle.replace invoker resource.target resource =
        handle.submit invoker "replace" resource := by
      simp [replace]
    change observation.Emits (handle.replace invoker resource.target resource) _
    rw [own]
    refine (emits_submit silent observed handle "replace" resource).mono ?_
    rintro reply exchanges ⟨output, rfl, rfl⟩
    have verb : (handle.submitCommand "replace" resource).verb = "replace" :=
      handle.verb_submitCommand (by decide) resource
    refine ⟨_, rfl, ?_, ?_, verb, rfl⟩
    · simp [Exchange.step, verb, stepOf]
    · cases output <;> simp [Exchange.isFatal, isTolerated, isReadable, verb]

end Production

end NetworkIsolation.Backend
