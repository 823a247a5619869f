import NetworkIsolation.Proofs.Backend.Running
import NetworkIsolation.Proofs.Backend.Stretch
import NetworkIsolation.Reconcile.Pools
import NetworkIsolation.Reconcile.Spaces

/-!
# Reconciliation as a stretch of exchanges

Both reconcilers work through a list until something fails.  If every item is a
stretch that fails when the item fails, then so is the whole list, and from this
the judgement climbs from single operations to the checks and applications of
both reconcilers.
-/

namespace NetworkIsolation.Reconcile

open NetworkIsolation.Backend NetworkIsolation.Configuration

attribute [simp] MutationOutcome.isFailure

/-- Whether the check failed. -/
@[simp]
def Applicability.isFailed : Applicability → Bool
  | .failed _ => true
  | _ => false

/-- Whether applying failed. -/
@[simp]
def StepOutcome.isFailed : StepOutcome → Bool
  | .failed _ => true
  | .completed => false

section

variable {σ Handle ι ο : Type} {observation : Observation σ Exchange}

/-- A list of stretches is a stretch, which fails where the first of them fails. -/
theorem untilFailure_stretch {step : String} {act : ι → StateM σ (Option String × List ο)}
    (each : ∀ item, observation.Emits (act item) fun result exchanges =>
      Stretch step result.1.isSome exchanges)
    (items : List ι) :
    observation.Emits (untilFailure act items) fun result exchanges =>
      Stretch step result.1.isSome exchanges := by
  induction items with
  | nil => exact Observation.emits_pure Stretch.empty
  | cons item items induction_hypothesis =>
      refine (each item).bind ?_
      rintro ⟨failure, outcomes⟩ exchanges stretch
      cases failure with
      | some reason =>
          refine Observation.emits_pure ?_
          simpa using stretch
      | none =>
          refine induction_hypothesis.bind ?_
          rintro ⟨failure, further⟩ rest tail
          refine Observation.emits_pure ?_
          simpa using Stretch.append stretch tail

variable [Journal σ] {fabric : Fabric σ} {balancer : LoadBalancer σ Handle} {missing : Prop}

/-! ## Spaces -/

namespace SpaceReconciler

theorem emits_ensureSpace (silent : observation.Silent) (stretches : fabric.Stretches observation)
    (live : List String) (space : Space) :
    observation.Emits (ensureSpace fabric live space) fun outcome exchanges =>
      Stretch "spaces" outcome.isFailure exchanges := by
  rw [ensureSpace]
  split
  · refine (stretches.setSpaceSubnets space.name space.subnets).bind ?_
    intro reply exchanges stretch
    cases reply with
    | ok value =>
        refine Observation.Emits.after_note silent (Observation.emits_pure ?_)
        simpa using stretch
    | error error =>
        refine Observation.Emits.after_note silent (Observation.emits_pure ?_)
        simpa using stretch
  · refine (stretches.addSpace space.name space.subnets).bind ?_
    intro reply exchanges stretch
    cases reply with
    | ok value =>
        refine Observation.Emits.after_note silent (Observation.emits_pure ?_)
        simpa using stretch
    | error error =>
        refine Observation.emits_pure ?_
        simpa using stretch

theorem emits_applySpace (silent : observation.Silent) (stretches : fabric.Stretches observation)
    (live : List String) (space : Space) :
    observation.Emits (applySpace fabric live space) fun result exchanges =>
      Stretch "spaces" result.1.isSome exchanges := by
  rw [applySpace]
  split
  · exact Observation.Emits.after_note silent (Observation.emits_pure Stretch.empty)
  · refine (emits_ensureSpace silent stretches live space).bind ?_
    intro outcome exchanges stretch
    cases outcome with
    | failed reason => exact Observation.emits_pure (by simpa using stretch)
    | created => exact Observation.emits_pure (by simpa using stretch)
    | updated => exact Observation.emits_pure (by simpa using stretch)
    | updateUnsupported reason => exact Observation.emits_pure (by simpa using stretch)

theorem emits_setDefaultSpace (silent : observation.Silent)
    (stretches : fabric.Stretches observation) (reconciler : SpaceReconciler) :
    observation.Emits (reconciler.setDefaultSpace fabric) fun _ exchanges =>
      Stretch "spaces" false exchanges := by
  refine (stretches.setModelConfig _).bind ?_
  intro reply exchanges stretch
  cases reply with
  | ok value => exact Observation.emits_pure (by simpa using stretch)
  | error error =>
      refine Observation.Emits.after_note silent (Observation.emits_pure ?_)
      simpa using stretch

/-- Applying the reconciliation of spaces is a stretch that fails when the application fails. -/
theorem emits_apply (silent : observation.Silent) (stretches : fabric.Stretches observation)
    (reconciler : SpaceReconciler) :
    observation.Emits (reconciler.apply fabric) fun result exchanges =>
      Stretch "spaces" result.1.isFailed exchanges := by
  refine stretches.listSpaces.bind ?_
  intro reply exchanges listed
  cases reply with
  | error error => exact Observation.emits_pure (by simpa using listed)
  | ok live =>
      refine Observation.Emits.after_note silent ?_
      refine (untilFailure_stretch (emits_applySpace silent stretches live)
        reconciler.spaces).bind ?_
      rintro ⟨failure, outcomes⟩ further worked
      cases failure with
      | some reason => exact Observation.emits_pure (by simpa using listed.append worked)
      | none =>
          refine (emits_setDefaultSpace silent stretches reconciler).bind ?_
          intro outcome rest finished
          exact Observation.emits_pure (by simpa using listed.append (worked.append finished))

end SpaceReconciler

/-! ## Pools -/

namespace PoolReconciler

/-- A refused creation is followed by the replacement, whose refusal is fatal. -/
theorem emits_createOrReplace (silent : observation.Silent)
    (stretches : balancer.Stretches observation missing) (handle : Handle)
    (resource : Resource) :
    observation.Emits (createOrReplace balancer handle resource) fun outcome exchanges =>
      Stretch "pools" outcome.isFailure exchanges := by
  refine (stretches.create handle resource).bind ?_
  rintro reply exchanges ⟨creation, rfl, issued, harmless, refusal, input⟩
  cases reply with
  | ok value =>
      refine Observation.emits_pure ?_
      have single : Stretch "pools" creation.isFatal [creation] :=
        Stretch.single issued (by simpa using refusal)
      rw [harmless] at single
      simpa using single
  | error createError =>
      refine Observation.Emits.after_note silent ?_
      refine (stretches.replace handle resource).bind ?_
      rintro reply exchanges ⟨replacement, rfl, issuedToo, fatal, verb, sameInput⟩
      have pair : Stretch "pools" (isRefusal reply) [creation, replacement] := by
        refine ⟨?_, ?_, ?_⟩
        · simp [issued, issuedToo]
        · have noCreation : replacement.isRefusedCreation = false := by
            simp [Exchange.isRefusedCreation, verb]
          simp [CreationsReplaced, noCreation, Exchange.Replaces, verb, input, sameInput]
        · cases refused : isRefusal reply with
          | false => simp [Calm, harmless, fatal, refused]
          | true =>
              simp only [if_true]
              exact ⟨[creation], replacement, rfl, by simp [Calm, harmless], by
                rw [fatal, refused]⟩
      cases reply with
      | ok value => exact Observation.emits_pure (by simpa using pair)
      | error replaceError => exact Observation.emits_pure (by simpa using pair)

theorem emits_applyResource (silent : observation.Silent)
    (stretches : balancer.Stretches observation missing) (handle : Handle)
    (resource : Resource) :
    observation.Emits (applyResource balancer handle resource) fun result exchanges =>
      Stretch "pools" result.1.isSome exchanges := by
  refine (emits_createOrReplace silent stretches handle resource).bind ?_
  intro outcome exchanges stretch
  refine Observation.emits_pure ?_
  cases outcome <;> simpa using stretch

theorem emits_applyRole (silent : observation.Silent)
    (stretches : balancer.Stretches observation missing) (names : IsolationNames)
    (handle : Handle) (entry : PoolRole × String) :
    observation.Emits (applyRole names balancer handle entry) fun result exchanges =>
      Stretch "pools" result.1.isSome exchanges := by
  rcases entry with ⟨role, range⟩
  refine (untilFailure_stretch (emits_applyResource silent stretches handle) _).bind ?_
  rintro ⟨failure, outcomes⟩ exchanges stretch
  cases failure with
  | some reason => exact Observation.emits_pure (by simpa using stretch)
  | none =>
      refine Observation.Emits.after_note silent (Observation.emits_pure ?_)
      simpa using stretch

theorem emits_annotateService (silent : observation.Silent)
    (stretches : fabric.Stretches observation) (names : IsolationNames)
    (deployed : List String) (service : AnnotatedService) :
    observation.Emits (annotateService names fabric deployed service) fun result exchanges =>
      Stretch "pools" result.1.isSome exchanges := by
  rw [annotateService]
  split
  · refine (stretches.setApplicationConfig _ _ _).bind ?_
    intro reply exchanges stretch
    cases reply with
    | error error => exact Observation.emits_pure (by simpa using stretch)
    | ok output =>
        refine Observation.Emits.after_note silent (Observation.emits_pure ?_)
        simpa using stretch
  · exact Observation.Emits.after_note silent (Observation.emits_pure Stretch.empty)

theorem emits_annotateServices (silent : observation.Silent)
    (stretches : fabric.Stretches observation) (names : IsolationNames) :
    observation.Emits (annotateServices names fabric) fun result exchanges =>
      Stretch "pools" result.1.isSome exchanges := by
  refine stretches.listApplications.bind ?_
  intro reply exchanges listed
  cases reply with
  | error error => exact Observation.emits_pure (by simpa using listed)
  | ok deployed =>
      refine (untilFailure_stretch (emits_annotateService silent stretches names deployed)
        names.services).mono ?_
      intro result further annotated
      exact listed.append annotated

theorem emits_applyWith (silent : observation.Silent)
    (pools : balancer.Stretches observation missing) (applications : fabric.Stretches observation)
    (reconciler : PoolReconciler) (handle : Handle) :
    observation.Emits (reconciler.applyWith balancer fabric handle) fun result exchanges =>
      Stretch "pools" result.1.isSome exchanges := by
  refine (untilFailure_stretch (emits_applyRole silent pools reconciler.names handle) _).bind ?_
  rintro ⟨failure, outcomes⟩ exchanges worked
  cases failure with
  | some reason => exact Observation.emits_pure (by simpa using worked)
  | none =>
      refine (emits_annotateServices silent applications reconciler.names).bind ?_
      rintro ⟨failure, annotated⟩ further finished
      exact Observation.emits_pure (by simpa using Stretch.append worked finished)

/-- With a handle, applying the reconciliation of pools is a stretch. -/
theorem emits_apply (silent : observation.Silent)
    (pools : balancer.Stretches observation missing) (applications : fabric.Stretches observation)
    (reconciler : PoolReconciler) (handle : Handle) :
    observation.Emits (reconciler.apply balancer fabric (some handle)) fun result exchanges =>
      Stretch "pools" result.1.isFailed exchanges := by
  rw [apply]
  split
  · exact Observation.Emits.after_note silent (Observation.emits_pure Stretch.empty)
  · have connected : connect balancer (some handle) =
        (pure (.ok handle) : StateM σ (Reply Handle)) := rfl
    rw [connected, pure_bind]
    refine (emits_applyWith silent pools applications reconciler handle).bind ?_
    rintro ⟨failure, progress⟩ exchanges worked
    cases failure with
    | none => exact Observation.emits_pure (by simpa using worked)
    | some reason =>
        refine Observation.Emits.after_note silent (Observation.emits_pure ?_)
        simpa using worked

omit [Journal σ] in
/-- If there is something to do for the pools, then there is a handle for it. -/
theorem exists_handle_of_ready (reconciler : PoolReconciler)
    (balancer : LoadBalancer σ Handle) (handle? : Option Handle) (state : σ)
    (ready : (reconciler.isApplicable balancer handle? state).1.1 = .ready) :
    ∃ handle, (reconciler.isApplicable balancer handle? state).1.2 = some handle := by
  by_cases empty : reconciler.resolvedRanges.isEmpty = true
  · simp [isApplicable, empty] at ready
  · rw [isApplicable, if_neg empty] at ready ⊢
    rcases connected : connect balancer handle? state with ⟨reply, after⟩
    simp only [run_bind, connected] at ready ⊢
    cases reply with
    | ok handle => exact ⟨handle, rfl⟩
    | error error => cases ready

omit [Journal σ] in
/--
The check of the pools is a stretch, or it fails without an exchange because
something is missing.
-/
theorem emits_isApplicable (stretches : balancer.Stretches observation missing)
    (reconciler : PoolReconciler) (handle? : Option Handle) :
    observation.Emits (reconciler.isApplicable balancer handle?) fun result exchanges =>
      Stretch "pools" result.1.isFailed exchanges ∨
        result.1.isFailed = true ∧ missing ∧ exchanges = [] := by
  rw [isApplicable]
  split
  · exact Observation.emits_pure (Or.inl Stretch.empty)
  · cases handle? with
    | some handle => exact Observation.emits_pure (Or.inl Stretch.empty)
    | none =>
        refine stretches.connect.bind ?_
        intro reply exchanges connected
        cases reply with
        | ok handle =>
            refine Observation.emits_pure ?_
            rcases connected with stretch | ⟨refused, absent, empty⟩
            · exact Or.inl (by simpa using stretch)
            · cases refused
        | error error =>
            refine Observation.emits_pure ?_
            rcases connected with stretch | ⟨refused, absent, empty⟩
            · exact Or.inl (by simpa using stretch)
            · exact Or.inr ⟨rfl, absent, by simpa using empty⟩

end PoolReconciler

end

end NetworkIsolation.Reconcile
