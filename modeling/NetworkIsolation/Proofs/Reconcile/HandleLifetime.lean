import NetworkIsolation.Proofs.Reconcile.MasterSwitch
import NetworkIsolation.Proofs.Reconcile.PoolTrace

/-!
# The lifetime of a handle

The reconciliation of pools may be checked and applied in any order and any number of times.
As soon as a range is resolved, each of these calls connects unless there is a handle already,
and leaves the handle behind for the next one however it ends.

`HandleTrace` tells which events can follow one another when a handle is got once and kept:
connections that fail, then one that succeeds, and then no further connection but operations
that go through its handle.  A call extends such a trace, from whatever handle the calls in
front of it have left, and so does every sequence of calls.  What is known of the handle over
a whole run is read off the trace.
-/

namespace NetworkIsolation.Reconcile

open NetworkIsolation.Backend NetworkIsolation.Configuration NetworkIsolation.Text

/-! ## Traces that keep a handle -/

section

variable {Handle : Type}

/-- The reply to an attempt to connect. -/
def attempt? : OuterEvent Handle → Option (Reply Handle)
  | .balancer (.connect reply) => some reply
  | _ => none

/-- The handle that a creation or a replacement goes through. -/
def used? : OuterEvent Handle → Option Handle
  | .balancer (.create handle _ _) => some handle
  | .balancer (.replace handle _ _ _) => some handle
  | _ => none

/-- An event that is no attempt to connect, and that goes through no other handle. -/
structure Serves (handle : Handle) (event : OuterEvent Handle) : Prop where
  attempts_nothing : attempt? event = none
  uses_handle : ∀ used, used? event = some used → used = handle

/-- Events by which a handle is got once and kept, with the handle before and after them. -/
inductive HandleTrace : Option Handle → List (OuterEvent Handle) → Option Handle → Prop where
  | nil (handle? : Option Handle) : HandleTrace handle? [] handle?
  | refused (cause : BackendError) {events : List (OuterEvent Handle)} {after : Option Handle}
      (rest : HandleTrace none events after) :
      HandleTrace none (.balancer (.connect (.error cause)) :: events) after
  | opened (handle : Handle) {events : List (OuterEvent Handle)} {after : Option Handle}
      (rest : HandleTrace (some handle) events after) :
      HandleTrace none (.balancer (.connect (.ok handle)) :: events) after
  | served {handle : Handle} {event : OuterEvent Handle} (serves : Serves handle event)
      {events : List (OuterEvent Handle)} {after : Option Handle}
      (rest : HandleTrace (some handle) events after) :
      HandleTrace (some handle) (event :: events) after

namespace HandleTrace

variable {before between after : Option Handle} {handle : Handle}
  {events further : List (OuterEvent Handle)}

theorem append (early : HandleTrace before events between)
    (late : HandleTrace between further after) : HandleTrace before (events ++ further) after := by
  induction early with
  | nil => exact late
  | refused cause rest induction_hypothesis => exact .refused cause (induction_hypothesis late)
  | opened handle rest induction_hypothesis => exact .opened handle (induction_hypothesis late)
  | served serves rest induction_hypothesis => exact .served serves (induction_hypothesis late)

theorem of_serves (serves : ∀ event ∈ events, Serves handle event) :
    HandleTrace (some handle) events (some handle) := by
  induction events with
  | nil => exact .nil _
  | cons event events induction_hypothesis =>
      rcases List.forall_mem_cons.mp serves with ⟨first, rest⟩
      exact .served first (induction_hypothesis rest)

/-- A trace can be cut anywhere. -/
theorem split (trace : HandleTrace before (events ++ further) after) :
    ∃ between, HandleTrace before events between ∧ HandleTrace between further after := by
  induction events generalizing before with
  | nil => exact ⟨before, .nil before, trace⟩
  | cons event events induction_hypothesis =>
      cases trace with
      | refused cause rest =>
          rcases induction_hypothesis rest with ⟨between, early, late⟩
          exact ⟨between, .refused cause early, late⟩
      | opened handle rest =>
          rcases induction_hypothesis rest with ⟨between, early, late⟩
          exact ⟨between, .opened handle early, late⟩
      | served serves rest =>
          rcases induction_hypothesis rest with ⟨between, early, late⟩
          exact ⟨between, .served serves early, late⟩

/-- A handle that is held stays, and everything goes through it. -/
theorem keeps (trace : HandleTrace (some handle) events after) :
    after = some handle ∧ ∀ event ∈ events, Serves handle event := by
  induction events generalizing after with
  | nil =>
      cases trace
      exact ⟨rfl, by simp⟩
  | cons event events induction_hypothesis =>
      cases trace with
      | served serves rest =>
          rcases induction_hypothesis rest with ⟨same, rest_serves⟩
          exact ⟨same, List.forall_mem_cons.mpr ⟨serves, rest_serves⟩⟩

/-- There is a handle in the end exactly if a connection has given it. -/
theorem opened_iff (trace : HandleTrace none events after) (handle : Handle) :
    .balancer (.connect (.ok handle)) ∈ events ↔ after = some handle := by
  induction events with
  | nil =>
      cases trace
      simp
  | cons event events induction_hypothesis =>
      cases trace with
      | refused cause rest =>
          rw [← induction_hypothesis rest, List.mem_cons]
          simp
      | opened got rest =>
          rcases rest.keeps with ⟨rfl, serves⟩
          have no_other : .balancer (.connect (.ok handle)) ∉ events := by
            intro member
            cases (serves _ member).attempts_nothing
          rw [List.mem_cons, or_iff_left no_other]
          simp [eq_comm]

/-- No attempt to connect comes after a connection. -/
theorem pairwise (trace : HandleTrace before events after) :
    events.Pairwise fun early late =>
      ∀ handle, attempt? early = some (.ok handle) → attempt? late = none := by
  induction trace with
  | nil => exact .nil
  | refused cause rest induction_hypothesis =>
      refine .cons ?_ induction_hypothesis
      intro late member handle opened
      cases opened
  | opened got rest induction_hypothesis =>
      refine .cons ?_ induction_hypothesis
      intro late member handle opened
      exact (rest.keeps.2 late member).attempts_nothing
  | served serves rest induction_hypothesis =>
      refine .cons ?_ induction_hypothesis
      intro late member handle opened
      rw [serves.attempts_nothing] at opened
      cases opened

/-- At most one attempt to connect succeeds. -/
theorem countP_attempts_le (trace : HandleTrace before events after) :
    (events.filterMap attempt?).countP Except.isOk ≤ 1 := by
  induction trace with
  | nil => exact Nat.zero_le 1
  | refused cause rest induction_hypothesis => exact induction_hypothesis
  | served serves rest induction_hypothesis =>
      rwa [List.filterMap_cons_none serves.attempts_nothing]
  | opened got rest induction_hypothesis =>
      have no_other := List.filterMap_eq_nil_iff.mpr fun event member =>
        (rest.keeps.2 event member).attempts_nothing
      rw [List.filterMap_cons_some (show attempt? _ = some (.ok got) from rfl), no_other]
      exact Nat.le_refl 1

/-- What goes through a handle comes after the connection that has given it. -/
theorem opened_before {event : OuterEvent Handle}
    (trace : HandleTrace none (events ++ event :: further) after)
    (uses : used? event = some handle) : .balancer (.connect (.ok handle)) ∈ events := by
  rcases trace.split with ⟨between, early, late⟩
  rw [early.opened_iff]
  cases late with
  | refused => cases uses
  | opened => cases uses
  | served serves rest => rw [serves.uses_handle handle uses]

end HandleTrace

end

/-! ## Calls one after the other -/

/-- A call of a reconciliation of pools. -/
inductive PoolCall where
  | check
  | apply
  deriving DecidableEq, Repr

namespace PoolCall

/-- Make a call on a step. -/
def perform {τ : Type} (step : Step τ) : PoolCall → StateM τ ReconcilerReply
  | .check => do return .checked (← step.isApplicable)
  | .apply => do return .applied (← step.apply)

/-- What a call replies that fails for a reason. -/
def failure (reason : String) : PoolCall → ReconcilerReply
  | .check => .checked (.failed reason)
  | .apply => .applied (.failed reason)

end PoolCall

/-- A call with its reply, and the events of the backends in it. -/
structure PoolTurn (Handle : Type) where
  call : PoolCall
  reply : ReconcilerReply
  events : List (OuterEvent Handle)

/-- Make a call, and keep what happens in it apart from what happens in the others. -/
def PoolCall.turn {σ Handle : Type} [Journal σ] (reconciler : PoolReconciler)
    (balancer : LoadBalancer σ Handle) (fabric : Fabric σ) (call : PoolCall) :
    StateM (Session σ Handle) (PoolTurn Handle) := fun session =>
  let step := poolsStep reconciler (balancer.traced OuterEvent.balancer)
    (fabric.traced OuterEvent.fabric)
  let (reply, after) := call.perform step ⟨⟨session.world, []⟩, session.handle⟩
  (⟨call, reply, after.world.events⟩, ⟨after.world.state, after.handle⟩)

section

variable {Handle : Type} {reconciler : PoolReconciler}

/-- What a call replies after an attempt to connect. -/
def PoolTurn.RepliesTo (turn : PoolTurn Handle) : Reply Handle → Prop
  | .ok _ => turn.call = .check → turn.reply = .checked .ready
  | .error cause => turn.reply = turn.call.failure (oneLine cause.message)

/-- What a turn does with a handle that is there before it, or without one. -/
structure IsTurn (reconciler : PoolReconciler) (before : Option Handle) (turn : PoolTurn Handle)
    (after : Option Handle) : Prop where
  trace : HandleTrace before turn.events after
  attempts_once : reconciler.resolvedRanges.isEmpty = false → before = none →
    ∃ reply, turn.events.filterMap attempt? = [reply] ∧ turn.RepliesTo reply
  ready : reconciler.resolvedRanges.isEmpty = false → before.isSome = true →
    turn.call = .check → turn.reply = .checked .ready

/-- Turns of which each one takes over the handle that the one in front of it has left. -/
inductive AreTurns (reconciler : PoolReconciler) :
    Option Handle → List (PoolTurn Handle) → Option Handle → Prop where
  | nil (handle? : Option Handle) : AreTurns reconciler handle? [] handle?
  | cons {before between after : Option Handle} {turn : PoolTurn Handle}
      {turns : List (PoolTurn Handle)} (first : IsTurn reconciler before turn between)
      (rest : AreTurns reconciler between turns after) :
      AreTurns reconciler before (turn :: turns) after

namespace AreTurns

variable {before between after : Option Handle} {turns further : List (PoolTurn Handle)}

/-- The events of turns that follow one another are one trace. -/
theorem trace (are_turns : AreTurns reconciler before turns after) :
    HandleTrace before (turns.flatMap PoolTurn.events) after := by
  induction are_turns with
  | nil => exact .nil _
  | cons first rest induction_hypothesis =>
      rw [List.flatMap_cons]
      exact first.trace.append induction_hypothesis

/-- A turn among others takes over the handle that was left by those in front of it. -/
theorem exists_isTurn {turn : PoolTurn Handle}
    (are_turns : AreTurns reconciler before (turns ++ turn :: further) after) :
    ∃ between next, AreTurns reconciler before turns between ∧
      IsTurn reconciler between turn next := by
  induction turns generalizing before with
  | nil =>
      cases are_turns with
      | cons first rest => exact ⟨before, _, .nil before, first⟩
  | cons earlier turns induction_hypothesis =>
      cases are_turns with
      | cons first rest =>
          rcases induction_hypothesis rest with ⟨between, next, early, is_turn⟩
          exact ⟨between, next, .cons first early, is_turn⟩

end AreTurns

/-! ## The two calls -/

theorem Connects.trace {handle? : Option Handle} {handle : Handle}
    {opening : List (OuterEvent Handle)} (connects : Connects handle? handle opening) :
    HandleTrace handle? opening (some handle) := by
  cases connects with
  | held => exact .nil _
  | opened => exact .opened handle (.nil _)

/-- With a handle there is no attempt to connect, and no other handle is used. -/
theorem ServingTrace.serves {handle : Handle} {result : Option String × PoolProgress Handle}
    {serving : List (OuterEvent Handle)} (trace : ServingTrace reconciler handle result serving) :
    ∀ event ∈ serving, Serves handle event := by
  intro event member
  rcases trace.event_cases member with ⟨answer, -, inside⟩ | ⟨asked, rfl⟩
  · rcases ResourceAnswer.event_cases inside with ⟨reply, rfl⟩ | ⟨reply, rfl⟩ <;>
      exact ⟨rfl, by rintro used ⟨⟩; rfl⟩
  · exact ⟨rfl, by rintro used ⟨⟩⟩

/-- Whatever a run with a handle comes to, the handle is kept. -/
theorem ServingTrace.handle_eq {handle : Handle} {failure : Option String}
    {progress : PoolProgress Handle} {serving : List (OuterEvent Handle)}
    (trace : ServingTrace reconciler handle (failure, progress) serving) :
    progress.handle = some handle := by
  cases trace <;> rfl

section

variable {before : Option Handle} {turn : PoolTurn Handle}

theorem isTurn_idle (nothing : reconciler.resolvedRanges.isEmpty = true)
    (silent : turn.events = []) : IsTurn reconciler before turn before where
  trace := by
    rw [silent]
    exact .nil before
  attempts_once something := by
    rw [nothing] at something
    cases something
  ready something := by
    rw [nothing] at something
    cases something

theorem isTurn_unconnected {cause : BackendError}
    (refused : turn.events = [.balancer (.connect (.error cause))])
    (fails : turn.reply = turn.call.failure (oneLine cause.message)) :
    IsTurn reconciler none turn none where
  trace := by
    rw [refused]
    exact .refused cause (.nil none)
  attempts_once _ _ := by
    rw [refused]
    exact ⟨.error cause, rfl, fails⟩
  ready _ held := by cases held

theorem isTurn_connected {handle : Handle} {opening serving : List (OuterEvent Handle)}
    (connects : Connects before handle opening) (serves : ∀ event ∈ serving, Serves handle event)
    (happened : turn.events = opening ++ serving)
    (ready : turn.call = .check → turn.reply = .checked .ready) :
    IsTurn reconciler before turn (some handle) where
  trace := by
    rw [happened]
    exact connects.trace.append (.of_serves serves)
  attempts_once _ absent := by
    subst absent
    cases connects with
    | opened =>
        have no_other := List.filterMap_eq_nil_iff.mpr fun event member =>
          (serves event member).attempts_nothing
        rw [happened, List.filterMap_append, no_other]
        exact ⟨.ok handle, rfl, ready⟩
  ready _ _ := ready

theorem CheckTrace.isTurn {result : Applicability × Option Handle}
    {events : List (OuterEvent Handle)} (trace : CheckTrace reconciler before result events) :
    IsTurn reconciler before ⟨.check, .checked result.1, events⟩ result.2 := by
  cases trace with
  | idle nothing reason => exact isTurn_idle (PoolReconciler.resolvesNothing_iff.mpr nothing) rfl
  | unconnected something absent cause =>
      subst absent
      exact isTurn_unconnected rfl rfl
  | connected something connects =>
      exact isTurn_connected connects (by simp) (List.append_nil _).symm fun _ => rfl

theorem PoolTrace.isTurn {result : StepOutcome × PoolProgress Handle}
    {events : List (OuterEvent Handle)} (trace : PoolTrace reconciler before result events) :
    IsTurn reconciler before ⟨.apply, .applied result.1, events⟩ result.2.handle := by
  cases trace with
  | idle nothing => exact isTurn_idle (PoolReconciler.resolvesNothing_iff.mpr nothing) rfl
  | unconnected something absent cause =>
      subst absent
      exact isTurn_unconnected rfl rfl
  | connected something connects serves =>
      rw [serves.handle_eq]
      exact isTurn_connected connects serves.serves rfl (by rintro ⟨⟩)

end

end

section

variable {σ Handle : Type} [Journal σ] (reconciler : PoolReconciler)
  (balancer : LoadBalancer σ Handle) (fabric : Fabric σ)

theorem PoolCall.run_check (session : Session σ Handle) :
    PoolCall.check.perform (poolsStep reconciler balancer fabric) session =
      let run := reconciler.isApplicable balancer session.handle session.world
      (.checked run.1.1, ⟨run.2, run.1.2⟩) := rfl

theorem PoolCall.run_apply (session : Session σ Handle) :
    PoolCall.apply.perform (poolsStep reconciler balancer fabric) session =
      let run := reconciler.apply balancer fabric session.handle session.world
      (.applied run.1.1, ⟨run.2, run.1.2.handle⟩) := rfl

/-- A turn does what the call does that is not traced. -/
theorem PoolCall.turn_spec (call : PoolCall) (session : Session σ Handle) :
    ∃ turn after, call.turn reconciler balancer fabric session = (turn, after) ∧
      call.perform (poolsStep reconciler balancer fabric) session = (turn.reply, after) ∧
      turn.call = call ∧ IsTurn reconciler session.handle turn after.handle := by
  cases call with
  | check =>
      rcases (PoolReconciler.records_isApplicable balancer reconciler
        session.handle).exists_events ⟨session.world, []⟩ with
        ⟨result, after, events, traced, plain, trace⟩
      refine ⟨⟨.check, .checked result.1, events⟩, ⟨after, result.2⟩, ?_, ?_, rfl, trace.isTurn⟩
      · rw [turn, run_check, traced]
        rfl
      · rw [run_check, plain]
  | apply =>
      rcases (PoolReconciler.records_apply balancer fabric reconciler
        session.handle).exists_events ⟨session.world, []⟩ with
        ⟨result, after, events, traced, plain, trace⟩
      refine ⟨⟨.apply, .applied result.1, events⟩, ⟨after, result.2.handle⟩, ?_, ?_, rfl,
        trace.isTurn⟩
      · rw [turn, run_apply, traced]
        rfl
      · rw [run_apply, plain]

/-- Calls one after the other are turns that hand the handle on. -/
theorem turns_spec (calls : List PoolCall) (session : Session σ Handle) :
    ∃ turns after, calls.mapM (PoolCall.turn reconciler balancer fabric) session = (turns, after) ∧
      calls.mapM (PoolCall.perform (poolsStep reconciler balancer fabric)) session =
        (turns.map PoolTurn.reply, after) ∧
      turns.map PoolTurn.call = calls ∧
      AreTurns reconciler session.handle turns after.handle := by
  induction calls generalizing session with
  | nil => exact ⟨[], session, rfl, rfl, rfl, .nil _⟩
  | cons call calls induction_hypothesis =>
      rcases call.turn_spec reconciler balancer fabric session with
        ⟨turn, between, turned, performed, same_call, is_turn⟩
      rcases induction_hypothesis between with
        ⟨turns, after, all_turned, all_performed, same_calls, are_turns⟩
      refine ⟨turn :: turns, after, ?_, ?_, ?_, .cons is_turn are_turns⟩
      · rw [List.mapM_cons, run_bind, turned, run_bind, all_turned]
        rfl
      · rw [List.mapM_cons, run_bind, performed, run_bind, all_performed]
        rfl
      · rw [List.map_cons, same_call, same_calls]

end

/-- What is known of the handle in turns that follow one another and begin without one. -/
structure KeepsHandle {Handle : Type} (reconciler : PoolReconciler)
    (turns : List (PoolTurn Handle)) : Prop where
  /-- At most one attempt to connect succeeds. -/
  one_success :
    ((turns.flatMap PoolTurn.events).filterMap attempt?).countP Except.isOk ≤ 1
  /-- After a success there are no further attempts. -/
  no_attempt_after_success : (turns.flatMap PoolTurn.events).Pairwise fun early late =>
    ∀ handle, attempt? early = some (.ok handle) → attempt? late = none
  /-- Whatever is created or replaced goes through the handle of the success in front of it. -/
  through_handle : ∀ {early event late handle},
    turns.flatMap PoolTurn.events = early ++ event :: late → used? event = some handle →
      .balancer (.connect (.ok handle)) ∈ early
  /-- Until there is a success, every call with a range makes one attempt. -/
  until_success : ∀ {earlier turn later}, turns = earlier ++ turn :: later →
    (∀ handle, .balancer (.connect (.ok handle)) ∉ earlier.flatMap PoolTurn.events) →
    reconciler.resolvedRanges.isEmpty = false →
      ∃ reply, turn.events.filterMap attempt? = [reply] ∧ turn.RepliesTo reply
  /-- After a success every check with a range is ready. -/
  ready_after_success : ∀ {earlier turn later handle}, turns = earlier ++ turn :: later →
    .balancer (.connect (.ok handle)) ∈ earlier.flatMap PoolTurn.events →
    reconciler.resolvedRanges.isEmpty = false →
      turn.call = .check → turn.reply = .checked .ready

theorem AreTurns.keepsHandle {Handle : Type} {reconciler : PoolReconciler}
    {turns : List (PoolTurn Handle)} {after : Option Handle}
    (are_turns : AreTurns reconciler none turns after) : KeepsHandle reconciler turns where
  one_success := are_turns.trace.countP_attempts_le
  no_attempt_after_success := are_turns.trace.pairwise
  through_handle := by
    intro early event late handle happened uses
    have trace := are_turns.trace
    rw [happened] at trace
    exact trace.opened_before uses
  until_success := by
    rintro earlier turn later rfl no_success something
    rcases are_turns.exists_isTurn with ⟨between, next, early, is_turn⟩
    have absent : between = none := by
      cases between with
      | none => rfl
      | some handle => exact absurd ((early.trace.opened_iff handle).mpr rfl) (no_success handle)
    subst absent
    exact is_turn.attempts_once something rfl
  ready_after_success := by
    rintro earlier turn later handle rfl success something checks
    rcases are_turns.exists_isTurn with ⟨between, next, early, is_turn⟩
    have held := (early.trace.opened_iff handle).mp success
    subst held
    exact is_turn.ready something rfl checks

/--
For every reconciliation of pools, all backends, and every sequence of checks and applications
that begins without a handle: the events of each call are such that the handle is got at most
once, and then it is kept and everything goes through it, whatever the calls come to.  Calls
whose events are written down reply and do what they would do otherwise.
-/
theorem calls_keep_handle {σ Handle : Type} [Journal σ] (reconciler : PoolReconciler)
    (balancer : LoadBalancer σ Handle) (fabric : Fabric σ) (calls : List PoolCall) (world : σ) :
    ∃ turns after,
      calls.mapM (PoolCall.turn reconciler balancer fabric) ⟨world, none⟩ = (turns, after) ∧
      calls.mapM (PoolCall.perform (poolsStep reconciler balancer fabric)) ⟨world, none⟩ =
        (turns.map PoolTurn.reply, after) ∧
      turns.map PoolTurn.call = calls ∧
      KeepsHandle reconciler turns ∧
      ∀ handle, .balancer (.connect (.ok handle)) ∈ turns.flatMap PoolTurn.events ↔
        after.handle = some handle := by
  rcases turns_spec reconciler balancer fabric calls ⟨world, none⟩ with
    ⟨turns, after, turned, performed, same_calls, are_turns⟩
  exact ⟨turns, after, turned, performed, same_calls, are_turns.keepsHandle,
    are_turns.trace.opened_iff⟩

end NetworkIsolation.Reconcile
