import NetworkIsolation.Proofs.Reconcile.WorksThrough
import NetworkIsolation.Reconcile.Spaces

/-!
# The calls of a reconciliation of spaces

The fabric may be any state machine, and may answer as it likes.  The spaces are listed
once, and this decides for every configured space which call is made for it.  An answer
fixes what is kept about a space and whether the run goes on: only an addition that is
refused ends it.

`SpaceTrace` tells what a whole run may give and which calls go with it.  It has one case
for each way in which a run ends, so that the calls and what is kept of them cannot come
apart.
-/

namespace NetworkIsolation.Reconcile

open NetworkIsolation.Backend NetworkIsolation.Configuration NetworkIsolation.Text

/-- A configured space and what the fabric answered for it. -/
structure SpaceAnswer where
  space : Space
  reply : Reply Unit

namespace SpaceAnswer

/-- The call for a space, of which it is known whether it was listed. -/
def event (live : List String) (answer : SpaceAnswer) : FabricEvent :=
  if live.contains answer.space.name then
    .setSpaceSubnets answer.space.name answer.space.subnets answer.reply
  else
    .addSpace answer.space.name answer.space.subnets answer.reply

/-- What the answer means for the space: only an addition can fail. -/
def outcome (live : List String) (answer : SpaceAnswer) : MutationOutcome :=
  if live.contains answer.space.name then
    match answer.reply with
    | .ok () => .updated
    | .error cause => .updateUnsupported (oneLine cause.message)
  else
    match answer.reply with
    | .ok () => .created
    | .error cause => .failed (oneLine cause.message)

/-- Why the run ends with the answer, if it does. -/
def failure (live : List String) (answer : SpaceAnswer) : Option String :=
  match answer.outcome live with
  | .failed reason => some ("failed to ensure space " ++ answer.space.name ++ ": " ++ reason)
  | _ => none

/-- What is kept about the space; nothing is, if the run ends with it. -/
def kept (live : List String) (answer : SpaceAnswer) : List (String × MutationOutcome) :=
  if (answer.outcome live).isFailure then [] else [(answer.space.name, answer.outcome live)]

/-- What the answers of a fabric mean for spaces. -/
def answering (live : List String) :
    Answering Space SpaceAnswer (String × MutationOutcome) FabricEvent where
  item := SpaceAnswer.space
  failure := SpaceAnswer.failure live
  outcomes := SpaceAnswer.kept live
  events answer := [answer.event live]

end SpaceAnswer

namespace SpaceReconciler

/-- The spaces for which there is a call: those with subnets, in the order of configuration. -/
def worked (reconciler : SpaceReconciler) : List Space :=
  reconciler.spaces.filter fun space => !space.subnets.isEmpty

/-- What became of the default space. -/
def defaultOutcome : Reply Unit → MutationOutcome
  | .ok () => .updated
  | .error cause => .failed (oneLine cause.message)

end SpaceReconciler

/-- What a run gives, and the calls that it makes. -/
inductive SpaceTrace (reconciler : SpaceReconciler) :
    StepOutcome × SpaceProgress → List FabricEvent → Prop where
  /-- The spaces cannot be listed, and nothing else is called. -/
  | unlisted (cause : BackendError) :
      SpaceTrace reconciler
        (.failed (oneLine ("unable to read model spaces: " ++ cause.message)), {})
        [.listSpaces (.error cause)]
  /-- A space cannot be added, and nothing is called after it. -/
  | stopped (live : List String) (reason : String) (outcomes : List (String × MutationOutcome))
      (events : List FabricEvent)
      (works : WorksThrough (SpaceAnswer.answering live) reconciler.worked
        (some reason, outcomes) events) :
      SpaceTrace reconciler (.failed reason, { outcomes }) (.listSpaces (.ok live) :: events)
  /-- Every space is worked on, and at the end the default space is set, whatever comes of it. -/
  | completed (live : List String) (outcomes : List (String × MutationOutcome))
      (events : List FabricEvent) (reply : Reply Unit)
      (works : WorksThrough (SpaceAnswer.answering live) reconciler.worked
        (none, outcomes) events) :
      SpaceTrace reconciler
        (.completed, { outcomes, defaultSpace := some (SpaceReconciler.defaultOutcome reply) })
        (.listSpaces (.ok live) :: (events ++
          [.setModelConfig ("default-space=" ++ reconciler.defaultSpace) reply]))

namespace SpaceReconciler

open Traced

variable {σ : Type} [Journal σ] (fabric : Fabric σ) (live : List String)

/-- For a space there is one call, and its reply says what is kept. -/
theorem records_ensureSpace (space : Space) :
    Records (ensureSpace (fabric.traced id) live space) (ensureSpace fabric live space)
      fun outcome events => ∃ answer : SpaceAnswer, answer.space = space ∧
        outcome = answer.outcome live ∧ events = [answer.event live] := by
  rw [ensureSpace, ensureSpace]
  split
  · rename_i listed
    refine (records_watch (fabric.setSpaceSubnets space.name space.subnets) _).bind ?_
    rintro reply events rfl
    cases reply with
    | ok value =>
        refine Records.after_note (records_pure ⟨⟨space, .ok ()⟩, rfl, ?_, ?_⟩)
        · rw [SpaceAnswer.outcome, if_pos listed]
        · rw [SpaceAnswer.event, if_pos listed]
          rfl
    | error cause =>
        refine Records.after_note (records_pure ⟨⟨space, .error cause⟩, rfl, ?_, ?_⟩)
        · rw [SpaceAnswer.outcome, if_pos listed]
        · rw [SpaceAnswer.event, if_pos listed]
          rfl
  · rename_i unlisted
    refine (records_watch (fabric.addSpace space.name space.subnets) _).bind ?_
    rintro reply events rfl
    cases reply with
    | ok value =>
        refine Records.after_note (records_pure ⟨⟨space, .ok ()⟩, rfl, ?_, ?_⟩)
        · rw [SpaceAnswer.outcome, if_neg unlisted]
        · rw [SpaceAnswer.event, if_neg unlisted]
          rfl
    | error cause =>
        refine records_pure ⟨⟨space, .error cause⟩, rfl, ?_, ?_⟩
        · rw [SpaceAnswer.outcome, if_neg unlisted]
        · rw [SpaceAnswer.event, if_neg unlisted]
          rfl

theorem records_applySpace (space : Space) :
    Records (applySpace (fabric.traced id) live space) (applySpace fabric live space)
      (WorksThrough (SpaceAnswer.answering live)
        ([space].filter fun space => !space.subnets.isEmpty)) := by
  rw [applySpace, applySpace]
  split
  · rename_i empty
    rw [List.filter_cons_of_neg (by simp [empty])]
    exact Records.after_note (records_pure worksThrough_nil)
  · rename_i nonempty
    rw [List.filter_cons_of_pos (by simp [nonempty]), List.filter_nil]
    refine (records_ensureSpace fabric live space).bind ?_
    rintro outcome events ⟨answer, rfl, means, rfl⟩
    have one := worksThrough_one (SpaceAnswer.answering live) answer
    simp only [SpaceAnswer.answering, SpaceAnswer.failure, SpaceAnswer.kept, ← means] at one
    cases outcome with
    | created => exact records_pure one
    | updated => exact records_pure one
    | updateUnsupported reason => exact records_pure one
    | failed reason => exact records_pure one

theorem records_setDefaultSpace (reconciler : SpaceReconciler) :
    Records (reconciler.setDefaultSpace (fabric.traced id)) (reconciler.setDefaultSpace fabric)
      fun outcome events => ∃ reply, outcome = defaultOutcome reply ∧
        events = [.setModelConfig ("default-space=" ++ reconciler.defaultSpace) reply] := by
  refine (records_watch (fabric.setModelConfig _) _).bind ?_
  rintro reply events rfl
  cases reply with
  | ok value => exact records_pure ⟨.ok (), rfl, rfl⟩
  | error cause => exact Records.after_note (records_pure ⟨.error cause, rfl, rfl⟩)

theorem records_apply (reconciler : SpaceReconciler) :
    Records (reconciler.apply (fabric.traced id)) (reconciler.apply fabric)
      (SpaceTrace reconciler) := by
  refine (records_watch fabric.listSpaces _).bind ?_
  rintro reply events rfl
  cases reply with
  | error cause => exact records_pure (.unlisted cause)
  | ok live =>
      refine Records.after_note ((records_untilFailure (records_applySpace fabric live)
        reconciler.spaces).bind ?_)
      rintro ⟨failure, outcomes⟩ events works
      rw [← List.filter_flatMap, List.flatMap_singleton'] at works
      cases failure with
      | some reason =>
          refine records_pure ?_
          rw [List.append_nil]
          exact .stopped live reason outcomes events works
      | none =>
          refine (records_setDefaultSpace fabric reconciler).bind ?_
          rintro outcome further ⟨reply, rfl, rfl⟩
          refine records_pure ?_
          exact .completed live outcomes events reply works

/--
For every configuration, fabric and state that it starts in: a run makes the calls that
its trace tells of, in this order and no others, and keeps what the trace says.  Whether
the calls are written down makes no difference.
-/
theorem apply_makes_calls_for_spaces (reconciler : SpaceReconciler)
    (start : Traced σ FabricEvent) :
    ∃ result after events,
      reconciler.apply (fabric.traced id) start = (result, ⟨after, start.events ++ events⟩) ∧
      reconciler.apply fabric start.state = (result, after) ∧
      SpaceTrace reconciler result events :=
  (records_apply fabric reconciler).exists_events start

end SpaceReconciler

end NetworkIsolation.Reconcile
