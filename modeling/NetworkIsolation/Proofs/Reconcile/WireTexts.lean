import NetworkIsolation.Proofs.Backend.Manifests
import NetworkIsolation.Proofs.Backend.Stretch
import NetworkIsolation.Proofs.Reconcile.PoolTrace

/-!
# Names on the wire

Reconciliation hands names to other programs in two places: in the manifests that `kubectl`
is fed with, and in the assignment that annotates an application.  Both are JSON inside
something else, and the names may hold quotes, backslashes and line breaks.

The commands and the calls are read off their traces, and what stands in them is decoded.
-/

namespace NetworkIsolation.Reconcile

open NetworkIsolation.Backend NetworkIsolation.Configuration NetworkIsolation.Json

/-- Whether a call runs one command, which is fed with the manifest and decides the reply. -/
def SubmitsOnce {σ : Type} (kubectl : Kubectl) (verb : String) (resource : Resource)
    (call : StateM (Traced σ Exchange) (Reply Unit)) : Prop :=
  ∀ start, ∃ reply : Reply String, (call start).1 = reply.map (fun _ => ()) ∧
    (call start).2.events = start.events ++
      [⟨⟨kubectl.line [verb, "-f", "-"], some resource.manifest.compact⟩, reply⟩]

/-- What a client runs for a resource, and what it does not run anything for. -/
structure SendsManifests {σ : Type} (client : LoadBalancer (Traced σ Exchange) Kubectl) :
    Prop where
  creates : ∀ kubectl resource,
    SubmitsOnce kubectl "create" resource (client.create kubectl resource)
  replaces : ∀ kubectl resource,
    SubmitsOnce kubectl "replace" resource (client.replace kubectl resource.target resource)
  /-- A replacement of something else is refused before anything is run. -/
  refuses : ∀ kubectl target resource, target ≠ resource.target → ∀ start, ∃ reason,
    client.replace kubectl target resource start = (.error (.api reason), start)

/-- What the texts of manifests decode to, those of any resource and those that are built. -/
structure ManifestsDecode : Prop where
  /-- Beside its specification a resource is decoded to its kind, its name and its namespace. -/
  any_resource : ∀ resource : Resource, resource.IsLegible →
    Value.parse resource.manifest.compact = .ok (.object [
      ("apiVersion", .string "metallb.io/v1beta1"),
      ("kind", .string resource.kind.word),
      ("metadata", .object [("name", .string resource.name),
        ("namespace", .string resource.space)]),
      ("spec", resource.spec)])
  address_pool : ∀ name space addresses,
    Value.parse (Resource.addressPool name space addresses).manifest.compact = .ok (.object [
      ("apiVersion", .string "metallb.io/v1beta1"),
      ("kind", .string "IPAddressPool"),
      ("metadata", .object [("name", .string name), ("namespace", .string space)]),
      ("spec", .object [("addresses", .array (addresses.map .string))])])
  advertisement : ∀ name space pool,
    Value.parse (Resource.advertisement name space pool).manifest.compact = .ok (.object [
      ("apiVersion", .string "metallb.io/v1beta1"),
      ("kind", .string "L2Advertisement"),
      ("metadata", .object [("name", .string name), ("namespace", .string space)]),
      ("spec", .object [("ipAddressPools", .array [.string pool])])])
  /-- Resources that differ in anything are sent as different texts. -/
  told_apart : ∀ first second : Resource, first.IsBuilt → second.IsBuilt → first ≠ second →
    first.manifest.compact ≠ second.manifest.compact

/-- Whether each application is assigned the pool of its role, and nothing else. -/
def AssignsPools {Handle : Type} (names : IsolationNames) (events : List (OuterEvent Handle)) :
    Prop :=
  ∀ application assignment jsonOutput reply,
    .fabric (.setApplicationConfig application assignment jsonOutput reply) ∈ events →
      ∃ service ∈ names.services, service.application = application ∧
        ∃ text, assignment = names.annotationConfigKey ++ "=" ++ text ∧ Value.parse text =
          .ok (.object [(names.annotationKey, .string (names.pool service.role))])

section

variable {σ : Type} [Journal σ]

omit [Journal σ] in
/-- A traced invoker is observed by the commands that are written down. -/
theorem traced_observedBy (invoker : Invoker σ) :
    (invoker.traced Exchange.mk).ObservedBy Traced.observation :=
  fun command => Traced.emits_watch (invoker.run command) (Exchange.mk command)

theorem submitsOnce (invoker : Invoker σ) (kubectl : Kubectl) (verb : String)
    (resource : Resource) :
    SubmitsOnce kubectl verb resource
      (kubectl.submit (invoker.traced Exchange.mk) verb resource) := by
  intro start
  rcases Kubectl.emits_submit Traced.silent (traced_observedBy invoker) kubectl verb resource
    start with ⟨_, reached, reply, same, rfl⟩
  exact ⟨reply, same, reached⟩

theorem sendsManifests (base : Kubectl) (invoker : Invoker σ)
    (isFile : Traced σ Exchange → String → Bool) :
    SendsManifests (base.balancer (invoker.traced Exchange.mk) isFile) where
  creates kubectl resource := submitsOnce invoker kubectl "create" resource
  replaces kubectl resource := by
    have accepted : (base.balancer (invoker.traced Exchange.mk) isFile).replace kubectl
        resource.target resource = kubectl.submit (invoker.traced Exchange.mk) "replace" resource :=
      if_pos rfl
    rw [accepted]
    exact submitsOnce invoker kubectl "replace" resource
  refuses kubectl target resource different start := by
    have refused : (base.balancer (invoker.traced Exchange.mk) isFile).replace kubectl target
        resource = pure (.error (Kubectl.mismatch target resource)) :=
      if_neg (Ne.symm different)
    rw [refused]
    exact ⟨_, rfl⟩

theorem manifestsDecode : ManifestsDecode where
  any_resource _ legible := legible.parse_manifest
  address_pool name space addresses :=
    (Resource.IsBuilt.addressPool name space addresses).isLegible.parse_manifest
  advertisement name space pool :=
    (Resource.IsBuilt.advertisement name space pool).isLegible.parse_manifest
  told_apart _ _ first_built second_built different same :=
    different (Resource.eq_of_compact_eq first_built.isLegible second_built.isLegible same)

theorem parse_annotation (key pool : String) :
    Value.parse (Value.object [(key, .string pool)]).compact =
      .ok (.object [(key, .string pool)]) := by
  have distinct : (Value.object [(key, .string pool)]).HasDistinctNames :=
    ⟨List.nodup_singleton key, trivial, trivial⟩
  exact toOption_eq_some.mp (Value.parse_compact distinct)

end

/-! ## Assignments -/

variable {Handle : Type} {reconciler : PoolReconciler}

/-- To place resources assigns nothing. -/
theorem ResourceAnswer.not_fabric {handle : Handle} {answer : ResourceAnswer}
    {asked : FabricEvent} :
    .fabric asked ∉ answer.events handle := by
  intro member
  rcases ResourceAnswer.event_cases member with ⟨reply, impossible⟩ | ⟨reply, impossible⟩ <;>
    cases impossible

theorem ServingTrace.assignsPools {handle : Handle}
    {result : Option String × PoolProgress Handle} {serving : List (OuterEvent Handle)}
    (serves : ServingTrace reconciler handle result serving) :
    AssignsPools reconciler.names serving := by
  intro application assignment jsonOutput reply member
  have not_placed : ∀ {items result placing},
      WorksThrough (ResourceAnswer.answering handle) items result placing →
        OuterEvent.fabric (.setApplicationConfig application assignment jsonOutput reply) ∉
          placing := by
    intro items result placing places inside
    rcases places.exists_answer inside with ⟨answer, -, among⟩
    exact ResourceAnswer.not_fabric among
  cases serves with
  | refused places => exact absurd member (not_placed places)
  | unlisted places cause =>
      rcases List.mem_append.mp member with placed | listing
      · exact absurd placed (not_placed places)
      · cases List.mem_singleton.mp listing
  | listed places deployed annotates =>
      rcases List.mem_append.mp member with placed | later
      · exact absurd placed (not_placed places)
      · rcases List.mem_cons.mp later with listing | annotated
        · cases listing
        · rcases annotates.exists_answer annotated with ⟨answer, among, inside⟩
          cases List.mem_singleton.mp inside
          exact ⟨answer.service, List.mem_of_mem_filter among, rfl, _, rfl,
            parse_annotation _ _⟩

theorem PoolTrace.assignsPools {handle? : Option Handle}
    {result : StepOutcome × PoolProgress Handle} {events : List (OuterEvent Handle)}
    (trace : PoolTrace reconciler handle? result events) :
    AssignsPools reconciler.names events := by
  intro application assignment jsonOutput reply member
  cases trace with
  | idle nothing => cases member
  | unconnected something absent cause => cases List.mem_singleton.mp member
  | connected something connects serves =>
      rcases List.mem_append.mp member with opened | served
      · cases connects with
        | held handle => cases opened
        | opened handle => cases List.mem_singleton.mp opened
      · exact serves.assignsPools application assignment jsonOutput reply served

/--
Whatever characters the names have, and whatever the backends answer: each creation and each
replacement of the resource itself runs one command, whose text decodes to the names as they
are.  The annotation of an application decodes to the pool of its role.
-/
theorem names_are_carried {σ : Type} [Journal σ] (base : Kubectl) (invoker : Invoker σ)
    (isFile : Traced σ Exchange → String → Bool)
    (reconciler : PoolReconciler) (balancer : LoadBalancer σ Handle) (fabric : Fabric σ)
    (handle? : Option Handle) :
    SendsManifests (base.balancer (invoker.traced Exchange.mk) isFile) ∧ ManifestsDecode ∧
      ∀ start, ∃ events,
        (reconciler.apply (balancer.traced OuterEvent.balancer) (fabric.traced OuterEvent.fabric)
          handle? start).2.events = start.events ++ events ∧
        AssignsPools reconciler.names events := by
  refine ⟨sendsManifests base invoker isFile, manifestsDecode, ?_⟩
  intro start
  rcases (PoolReconciler.records_apply balancer fabric reconciler handle?).exists_events start
    with ⟨result, after, events, made, -, trace⟩
  refine ⟨events, ?_, trace.assignsPools⟩
  rw [made]

end NetworkIsolation.Reconcile
