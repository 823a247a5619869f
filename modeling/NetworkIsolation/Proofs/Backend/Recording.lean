import NetworkIsolation.Proofs.Backend.Running
import NetworkIsolation.Proofs.Backend.Tracing

/-!
# What is recorded

A traced action does what the action does that is not traced, and writes down what it
asks of the backends.  `Records` says both at once: the traced action has the result and
the state of the plain one, and the events that it adds fit the result.

The rules are those of `EmitsAt`.  Every state is judged for itself, since what follows an
action may rely on what is known of its result.
-/

namespace NetworkIsolation.Backend.Traced

variable {σ ε α β : Type}

/-- The traced action does what the plain one does, and adds events that fit the result. -/
def Records (traced : StateM (Traced σ ε) α) (plain : StateM σ α)
    (fits : α → List ε → Prop) : Prop :=
  ∀ start, plain start.state = ((traced start).1, (traced start).2.state) ∧
    observation.EmitsAt start traced fits

variable {traced : StateM (Traced σ ε) α} {plain : StateM σ α} {fits : α → List ε → Prop}

theorem records_pure {value : α} (fact : fits value []) :
    Records (pure value : StateM (Traced σ ε) α) (pure value) fits := by
  intro start
  exact ⟨rfl, Observation.emits_pure fact start⟩

/-- An operation that is watched writes down one event. -/
theorem records_watch (action : StateM σ α) (event : α → ε) :
    Records (watch action event) action fun reply events => events = [event reply] := by
  intro start
  exact ⟨rfl, emits_watch action event start⟩

theorem Records.mono {wider : α → List ε → Prop} (records : Records traced plain fits)
    (implies : ∀ result events, fits result events → wider result events) :
    Records traced plain wider := by
  intro start
  rcases records start with ⟨same, events, reached, fact⟩
  exact ⟨same, events, reached, implies _ events fact⟩

/-- What follows an action is judged with the events that were written down in front. -/
theorem Records.bind {traced_next : α → StateM (Traced σ ε) β} {plain_next : α → StateM σ β}
    {final : β → List ε → Prop} (records : Records traced plain fits)
    (follows : ∀ result events, fits result events →
      Records (traced_next result) (plain_next result)
        fun value further => final value (events ++ further)) :
    Records (traced >>= traced_next) (plain >>= plain_next) final := by
  intro start
  rcases records start with ⟨same, emits⟩
  constructor
  · rcases emits with ⟨events, -, fact⟩
    rw [run_bind, run_bind, same]
    exact (follows _ events fact (traced start).2).1
  · exact emits.bind fun events fact => (follows _ events fact (traced start).2).2

/-- A note in front of an action is not written down among the events. -/
theorem Records.after_note [Journal σ] {component : Component} {level : Level} {message : String}
    {traced_next : Unit → StateM (Traced σ ε) β} {plain_next : Unit → StateM σ β}
    {final : β → List ε → Prop} (follows : Records (traced_next ()) (plain_next ()) final) :
    Records (note component level message >>= traced_next)
      (note component level message >>= plain_next) final := by
  intro start
  rcases follows (Journal.record ⟨component, level, message⟩ start) with ⟨same, emits⟩
  exact ⟨same, emits.after_note silent⟩

/-- The events of a run stand after what was there before. -/
theorem Records.exists_events (records : Records traced plain fits) (start : Traced σ ε) :
    ∃ result after events, traced start = (result, ⟨after, start.events ++ events⟩) ∧
      plain start.state = (result, after) ∧ fits result events := by
  rcases records start with ⟨same, events, reached, fact⟩
  exact ⟨_, _, events, Prod.ext rfl (congrArg (Traced.mk _) reached), same, fact⟩

end NetworkIsolation.Backend.Traced
