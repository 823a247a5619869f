import NetworkIsolation.Proofs.Reconcile.Convergence
import NetworkIsolation.Proofs.Reconcile.WorksThrough

/-!
# The calls of a reconciliation of pools

The load balancer and the fabric may be any state machines, and may answer as they like.
Two lists are worked through, one after the other: the resources that are wanted, and the
services whose applications are deployed.  For a resource there is a creation, and a
replacement if the creation is refused; for a service there is one change of the
configuration of its application.

`PoolTrace` tells what a whole run may give and which calls go with it.  The second list
is not begun, and the fabric is not asked for anything, unless all of the first went well.
-/

namespace NetworkIsolation.Reconcile

open NetworkIsolation.Backend NetworkIsolation.Configuration NetworkIsolation.Text

/-! ## Resources -/

/-- How a load balancer answers when a resource is to be there. -/
inductive Placing where
  | created
  /-- The creation was refused, and the replacement was not. -/
  | replaced (refusal : BackendError)
  /-- The creation and the replacement were refused. -/
  | refused (refusal cause : BackendError)

/-- A resource that is wanted and what the load balancer answered for it. -/
structure ResourceAnswer where
  resource : Resource
  placing : Placing

namespace ResourceAnswer

/--
The calls for a resource.  The replacement comes just when the creation was refused, and it
is for the kind, the name and the namespace of the resource itself.
-/
def events {Handle : Type} (handle : Handle) (answer : ResourceAnswer) :
    List (OuterEvent Handle) :=
  let creation (reply : Reply Unit) := .balancer (.create handle answer.resource reply)
  let target : ResourceTarget :=
    ⟨answer.resource.kind, answer.resource.name, answer.resource.space⟩
  let replacement (reply : Reply Unit) :=
    .balancer (.replace handle target answer.resource reply)
  match answer.placing with
  | .created => [creation (.ok ())]
  | .replaced refusal => [creation (.error refusal), replacement (.ok ())]
  | .refused refusal cause => [creation (.error refusal), replacement (.error cause)]

/-- Only the resource is created or replaced, and only through the handle. -/
theorem event_cases {Handle : Type} {handle : Handle} {answer : ResourceAnswer}
    {event : OuterEvent Handle} (member : event ∈ answer.events handle) :
    (∃ reply, event = .balancer (.create handle answer.resource reply)) ∨
      ∃ reply,
        event = .balancer (.replace handle answer.resource.target answer.resource reply) := by
  rcases answer with ⟨resource, placing⟩
  cases placing with
  | created => exact .inl ⟨_, List.mem_singleton.mp member⟩
  | replaced refusal =>
      rcases List.mem_pair.mp member with creation | replacement
      · exact .inl ⟨_, creation⟩
      · exact .inr ⟨_, replacement⟩
  | refused refusal cause =>
      rcases List.mem_pair.mp member with creation | replacement
      · exact .inl ⟨_, creation⟩
      · exact .inr ⟨_, replacement⟩

/-- Why the run ends with the answer, if it does. -/
def failure (answer : ResourceAnswer) : Option String :=
  match answer.placing with
  | .created => none
  | .replaced _ => none
  | .refused refusal cause =>
    some ("Failed to apply " ++ answer.resource.kind.word ++ " " ++ answer.resource.name ++ ": " ++
      cause.message ++ " (create failed: " ++ refusal.message ++ ")")

/-- What the answer means for the resource. -/
def outcome (answer : ResourceAnswer) : MutationOutcome :=
  match answer.failure, answer.placing with
  | some reason, _ => .failed reason
  | none, .created => .created
  | none, _ => .updated

/-- What the answers of a load balancer mean for resources; the one that failed is kept, too. -/
def answering {Handle : Type} (handle : Handle) :
    Answering Resource ResourceAnswer (ResourceKind × String × MutationOutcome)
      (OuterEvent Handle) where
  item := ResourceAnswer.resource
  failure := ResourceAnswer.failure
  outcomes answer := [(answer.resource.kind, answer.resource.name, answer.outcome)]
  events := ResourceAnswer.events handle

end ResourceAnswer

/-! ## Services -/

/-- A service whose application is deployed and what the fabric answered for it. -/
structure ServiceAnswer where
  service : AnnotatedService
  reply : Reply String

namespace ServiceAnswer

/-- Why the run ends with the answer, if it does. -/
def failure (answer : ServiceAnswer) : Option String :=
  match answer.reply with
  | .ok _ => none
  | .error cause =>
    some ("failed to annotate " ++ answer.service.application ++ ": " ++ cause.message)

/-- The application, if it was annotated. -/
def annotated (answer : ServiceAnswer) : List String :=
  match answer.reply with
  | .ok _ => [answer.service.application]
  | .error _ => []

/-- What the answers of a fabric mean for services. -/
def answering (Handle : Type) (names : IsolationNames) :
    Answering AnnotatedService ServiceAnswer String (OuterEvent Handle) where
  item := ServiceAnswer.service
  failure := ServiceAnswer.failure
  outcomes := ServiceAnswer.annotated
  events answer := [.fabric (.setApplicationConfig answer.service.application
    (annotationAssignment names answer.service.role) false answer.reply)]

end ServiceAnswer

/-- The services whose applications are deployed, in the order of the table. -/
def deployedServices (names : IsolationNames) (deployed : List String) : List AnnotatedService :=
  names.services.filter fun service => deployed.contains service.application

/-! ## The whole run -/

variable {Handle : Type}

/-- Why a run with a handle fails, if it does, what it keeps, and the calls that it makes. -/
inductive ServingTrace (reconciler : PoolReconciler) (handle : Handle) :
    Option String × PoolProgress Handle → List (OuterEvent Handle) → Prop where
  /-- A resource cannot be put in place, and the fabric is not asked for anything. -/
  | refused {reason : String} {outcomes : List (ResourceKind × String × MutationOutcome)}
      {placing : List (OuterEvent Handle)}
      (places : WorksThrough (ResourceAnswer.answering handle) reconciler.wanted
        (some reason, outcomes) placing) :
      ServingTrace reconciler handle (some reason, { handle := some handle, outcomes }) placing
  /-- All resources are in place, but the applications cannot be listed. -/
  | unlisted {outcomes : List (ResourceKind × String × MutationOutcome)}
      {placing : List (OuterEvent Handle)}
      (places : WorksThrough (ResourceAnswer.answering handle) reconciler.wanted
        (none, outcomes) placing)
      (cause : BackendError) :
      ServingTrace reconciler handle
        (some ("unable to list applications: " ++ cause.message),
          { handle := some handle, outcomes })
        (placing ++ [.fabric (.listApplications (.error cause))])
  /-- The applications are annotated, all of them or up to the first that cannot be. -/
  | listed {outcomes : List (ResourceKind × String × MutationOutcome)}
      {placing : List (OuterEvent Handle)}
      (places : WorksThrough (ResourceAnswer.answering handle) reconciler.wanted
        (none, outcomes) placing)
      (deployed : List String) {failure : Option String} {annotated : List String}
      {annotating : List (OuterEvent Handle)}
      (annotates : WorksThrough (ServiceAnswer.answering Handle reconciler.names)
        (deployedServices reconciler.names deployed) (failure, annotated) annotating) :
      ServingTrace reconciler handle
        (failure, { handle := some handle, outcomes, annotated })
        (placing ++ .fabric (.listApplications (.ok deployed)) :: annotating)

/-- With a handle, the load balancer is called for what is wanted, and else the fabric is. -/
theorem ServingTrace.event_cases {reconciler : PoolReconciler} {handle : Handle}
    {result : Option String × PoolProgress Handle} {serving : List (OuterEvent Handle)}
    (serves : ServingTrace reconciler handle result serving) {event : OuterEvent Handle}
    (member : event ∈ serving) :
    (∃ answer : ResourceAnswer, answer.resource ∈ reconciler.wanted ∧
        event ∈ answer.events handle) ∨
      ∃ asked, event = .fabric asked := by
  cases serves with
  | refused places => exact .inl (places.exists_answer member)
  | unlisted places cause =>
      rcases List.mem_append.mp member with placed | listing
      · exact .inl (places.exists_answer placed)
      · exact .inr ⟨_, List.mem_singleton.mp listing⟩
  | listed places deployed annotates =>
      rcases List.mem_append.mp member with placed | later
      · exact .inl (places.exists_answer placed)
      · rcases List.mem_cons.mp later with listing | annotated
        · exact .inr ⟨_, listing⟩
        · rcases annotates.exists_answer annotated with ⟨answer, -, inside⟩
          exact .inr ⟨_, List.mem_singleton.mp inside⟩

/-- A run that does not fail has called the load balancer for everything that is wanted. -/
theorem ServingTrace.exists_answer_to {reconciler : PoolReconciler} {handle : Handle}
    {progress : PoolProgress Handle} {serving : List (OuterEvent Handle)}
    (serves : ServingTrace reconciler handle (none, progress) serving) {resource : Resource}
    (wanted : resource ∈ reconciler.wanted) :
    ∃ answer : ResourceAnswer, answer.resource = resource ∧ answer.events handle ⊆ serving := by
  cases serves with
  | listed places deployed annotates =>
      rcases places.exists_answer_to wanted with ⟨answer, same, inside⟩
      exact ⟨answer, same, List.subset_append_of_subset_left _ inside⟩

/-- A handle that is held costs no call, and one that is not costs one. -/
inductive Connects : Option Handle → Handle → List (OuterEvent Handle) → Prop where
  | held (handle : Handle) : Connects (some handle) handle []
  | opened (handle : Handle) : Connects none handle [.balancer (.connect (.ok handle))]

/-- What a run gives that fails for a reason or not at all. -/
def outcomeOf : Option String → StepOutcome
  | none => .completed
  | some reason => .failed (oneLine reason)

/-- What a run gives, and the calls that it makes. -/
inductive PoolTrace (reconciler : PoolReconciler) (handle? : Option Handle) :
    StepOutcome × PoolProgress Handle → List (OuterEvent Handle) → Prop where
  /-- No range is resolved, and nothing is called. -/
  | idle (nothing : ∀ role, reconciler.resolvedRanges.get role = none) :
      PoolTrace reconciler handle? (.completed, { handle := handle? }) []
  /-- There is no handle and none can be got. -/
  | unconnected (something : ∃ role range, reconciler.resolvedRanges.get role = some range)
      (absent : handle? = none) (cause : BackendError) :
      PoolTrace reconciler handle? (.failed (oneLine cause.message), { handle := none })
        [.balancer (.connect (.error cause))]
  /-- There is a handle, which is kept whatever the run comes to. -/
  | connected (something : ∃ role range, reconciler.resolvedRanges.get role = some range)
      {handle : Handle} {opening serving : List (OuterEvent Handle)}
      (connects : Connects handle? handle opening)
      {failure : Option String} {progress : PoolProgress Handle}
      (serves : ServingTrace reconciler handle (failure, progress) serving) :
      PoolTrace reconciler handle? (outcomeOf failure, progress) (opening ++ serving)

/-- What a check gives, and the calls that it makes: it connects, if that is to be done. -/
inductive CheckTrace (reconciler : PoolReconciler) (handle? : Option Handle) :
    Applicability × Option Handle → List (OuterEvent Handle) → Prop where
  /-- No range is resolved, and nothing is called. -/
  | idle (nothing : ∀ role, reconciler.resolvedRanges.get role = none) (reason : String) :
      CheckTrace reconciler handle? (.skipped reason, handle?) []
  /-- There is no handle and none can be got. -/
  | unconnected (something : ∃ role range, reconciler.resolvedRanges.get role = some range)
      (absent : handle? = none) (cause : BackendError) :
      CheckTrace reconciler handle? (.failed (oneLine cause.message), none)
        [.balancer (.connect (.error cause))]
  /-- There is a handle, and it is kept. -/
  | connected (something : ∃ role range, reconciler.resolvedRanges.get role = some range)
      {handle : Handle} {opening : List (OuterEvent Handle)}
      (connects : Connects handle? handle opening) :
      CheckTrace reconciler handle? (.ready, some handle) opening

namespace PoolReconciler

open Traced

variable {σ : Type} [Journal σ] (balancer : LoadBalancer σ Handle) (fabric : Fabric σ)
  (names : IsolationNames) (handle : Handle)

theorem records_createOrReplace (resource : Resource) :
    Records (createOrReplace (balancer.traced OuterEvent.balancer) handle resource)
      (createOrReplace balancer handle resource)
      fun outcome events => ∃ answer : ResourceAnswer, answer.resource = resource ∧
        outcome = answer.outcome ∧ events = answer.events handle := by
  refine (records_watch (balancer.create handle resource)
    fun reply => OuterEvent.balancer (.create handle resource reply)).bind ?_
  rintro reply events rfl
  cases reply with
  | ok value => exact records_pure ⟨⟨resource, .created⟩, rfl, rfl, rfl⟩
  | error refusal =>
      refine Records.after_note ((records_watch
        (balancer.replace handle resource.target resource) fun reply =>
          OuterEvent.balancer (.replace handle resource.target resource reply)).bind ?_)
      rintro reply further rfl
      cases reply with
      | ok value => exact records_pure ⟨⟨resource, .replaced refusal⟩, rfl, rfl, rfl⟩
      | error cause => exact records_pure ⟨⟨resource, .refused refusal cause⟩, rfl, rfl, rfl⟩

theorem records_applyResource (resource : Resource) :
    Records (applyResource (balancer.traced OuterEvent.balancer) handle resource)
      (applyResource balancer handle resource)
      (WorksThrough (ResourceAnswer.answering handle) [resource]) := by
  refine (records_createOrReplace balancer handle resource).bind ?_
  rintro outcome events ⟨answer, rfl, rfl, rfl⟩
  have one := worksThrough_one (ResourceAnswer.answering handle) answer
  refine records_pure ?_
  rw [List.append_nil]
  rcases answer with ⟨resource, placing⟩
  cases placing <;> exact one

/-- The two resources of a role are worked on one after the other. -/
theorem records_applyRole (entry : PoolRole × String) :
    Records (applyRole names (balancer.traced OuterEvent.balancer) handle entry)
      (applyRole names balancer handle entry)
      (WorksThrough (ResourceAnswer.answering handle) (roleResources names entry)) := by
  refine (records_untilFailure (records_applyResource balancer handle)
    (roleResources names entry)).bind ?_
  rintro ⟨failure, outcomes⟩ events works
  rw [List.flatMap_singleton'] at works
  cases failure with
  | some reason =>
      refine records_pure ?_
      rw [List.append_nil]
      exact works
  | none =>
      refine Records.after_note (records_pure ?_)
      rw [List.append_nil]
      exact works

theorem records_annotateService (deployed : List String) (service : AnnotatedService) :
    Records (annotateService names (fabric.traced (.fabric : FabricEvent → OuterEvent Handle))
        deployed service)
      (annotateService names fabric deployed service)
      (WorksThrough (ServiceAnswer.answering Handle names)
        ([service].filter fun service => deployed.contains service.application)) := by
  rw [annotateService, annotateService]
  split
  · rename_i present
    simp only [List.filter_cons, List.filter_nil, present, if_true]
    refine (records_watch (fabric.setApplicationConfig service.application
      (annotationAssignment names service.role) false) fun reply =>
        OuterEvent.fabric (.setApplicationConfig service.application
          (annotationAssignment names service.role) false reply)).bind ?_
    rintro reply events rfl
    have one := worksThrough_one (ServiceAnswer.answering Handle names)
      ⟨service, reply⟩
    cases reply with
    | error cause => exact records_pure one
    | ok output => exact Records.after_note (records_pure one)
  · rename_i absent
    simp only [List.filter_cons, List.filter_nil, absent]
    exact Records.after_note (records_pure worksThrough_nil)

/-- The applications are listed, and the services of those that are deployed are annotated. -/
theorem records_annotateServices :
    Records (annotateServices names (fabric.traced (.fabric : FabricEvent → OuterEvent Handle)))
      (annotateServices names fabric)
      fun result events =>
        (∃ cause, result = (some ("unable to list applications: " ++ cause.message), []) ∧
          events = [.fabric (.listApplications (.error cause))]) ∨
        ∃ deployed annotating, events = .fabric (.listApplications (.ok deployed)) :: annotating ∧
          WorksThrough (ServiceAnswer.answering Handle names) (deployedServices names deployed)
            result annotating := by
  refine (records_watch fabric.listApplications
    fun reply => OuterEvent.fabric (.listApplications reply)).bind ?_
  rintro reply events rfl
  cases reply with
  | error cause => exact records_pure (Or.inl ⟨cause, rfl, rfl⟩)
  | ok deployed =>
      refine (records_untilFailure (records_annotateService fabric names deployed)
        names.services).mono ?_
      intro result annotating works
      rw [← List.filter_flatMap, List.flatMap_singleton'] at works
      exact Or.inr ⟨deployed, annotating, rfl, works⟩

theorem records_applyWith (reconciler : PoolReconciler) :
    Records (reconciler.applyWith (balancer.traced OuterEvent.balancer)
        (fabric.traced OuterEvent.fabric) handle)
      (reconciler.applyWith balancer fabric handle)
      (ServingTrace reconciler handle) := by
  refine (records_untilFailure (records_applyRole balancer reconciler.names handle)
    reconciler.resolvedRanges.toList).bind ?_
  rw [← wanted_eq]
  rintro ⟨failure, outcomes⟩ placing places
  cases failure with
  | some reason =>
      refine records_pure ?_
      rw [List.append_nil]
      exact .refused places
  | none =>
      refine (records_annotateServices fabric reconciler.names).bind ?_
      rintro ⟨failure, annotated⟩ events given
      refine records_pure ?_
      rw [List.append_nil]
      rcases given with ⟨cause, same, rfl⟩ | ⟨deployed, annotating, rfl, annotates⟩
      · cases same
        exact .unlisted places cause
      · exact .listed places deployed annotates

omit [Journal σ] in
/-- A handle that is held is used, and else there is one call for it. -/
theorem records_connect (handle? : Option Handle) :
    Records (connect (balancer.traced OuterEvent.balancer) handle?) (connect balancer handle?)
      fun reply events => match reply with
        | .ok handle => Connects handle? handle events
        | .error cause => handle? = none ∧ events = [.balancer (.connect (.error cause))] := by
  cases handle? with
  | some handle => exact records_pure (.held handle)
  | none =>
      refine (records_watch balancer.connect _).mono ?_
      rintro reply events rfl
      cases reply with
      | ok handle => exact .opened handle
      | error cause => exact ⟨rfl, rfl⟩

omit [Journal σ] in
theorem records_isApplicable (reconciler : PoolReconciler) (handle? : Option Handle) :
    Records (reconciler.isApplicable (balancer.traced OuterEvent.balancer) handle?)
      (reconciler.isApplicable balancer handle?)
      (CheckTrace reconciler handle?) := by
  rw [isApplicable, isApplicable]
  split
  · rename_i nothing
    exact records_pure (.idle (resolvesNothing_iff.mp nothing) _)
  · rename_i something
    have something := resolvesSomething_iff.mp (Bool.eq_false_iff.mpr something)
    refine (records_connect balancer handle?).bind ?_
    intro reply opening connects
    cases reply with
    | error cause =>
        rcases connects with ⟨rfl, rfl⟩
        exact records_pure (.unconnected something rfl cause)
    | ok handle =>
        refine records_pure ?_
        rw [List.append_nil]
        exact .connected something connects

theorem records_apply (reconciler : PoolReconciler) (handle? : Option Handle) :
    Records (reconciler.apply (balancer.traced OuterEvent.balancer)
        (fabric.traced OuterEvent.fabric) handle?)
      (reconciler.apply balancer fabric handle?)
      (PoolTrace reconciler handle?) := by
  rw [PoolReconciler.apply, PoolReconciler.apply]
  split
  · rename_i nothing
    exact Records.after_note (records_pure (.idle (resolvesNothing_iff.mp nothing)))
  · rename_i something
    have something := resolvesSomething_iff.mp (Bool.eq_false_iff.mpr something)
    refine (records_connect balancer handle?).bind ?_
    intro reply opening connects
    cases reply with
    | error cause =>
        rcases connects with ⟨rfl, rfl⟩
        exact records_pure (.unconnected something rfl cause)
    | ok handle =>
        refine (records_applyWith balancer fabric handle reconciler).bind ?_
        rintro ⟨failure, progress⟩ serving serves
        have trace := PoolTrace.connected something connects serves
        rw [← List.append_nil (opening ++ serving), List.append_assoc] at trace
        cases failure with
        | none => exact records_pure trace
        | some reason => exact Records.after_note (records_pure trace)

/--
For every configuration, load balancer, fabric, handle that may be held, and state that it
starts in: a run makes the calls that its trace tells of, in this order and no others, and
keeps what the trace says.  Whether the calls are written down makes no difference.
-/
theorem apply_makes_calls_for_pools (reconciler : PoolReconciler) (handle? : Option Handle)
    (start : Traced σ (OuterEvent Handle)) :
    ∃ result after events,
      reconciler.apply (balancer.traced OuterEvent.balancer) (fabric.traced OuterEvent.fabric)
        handle? start = (result, ⟨after, start.events ++ events⟩) ∧
      reconciler.apply balancer fabric handle? start.state = (result, after) ∧
      PoolTrace reconciler handle? result events :=
  (records_apply balancer fabric reconciler handle?).exists_events start

end PoolReconciler

end NetworkIsolation.Reconcile
