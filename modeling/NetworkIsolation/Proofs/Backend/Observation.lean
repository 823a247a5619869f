import NetworkIsolation.Backend.State

/-!
# Observed actions

What an action on a state does to the outside is a list of events: commands with
their replies, calls of a backend, or whatever is written down.  An observation
says by which events one state is reached from another one.  It is closed under
doing nothing and under doing one thing after the other.

`Emits` is the judgement of this file: whatever state an action starts in, it
emits events that fit its result.  The rules follow the shape of an action, so
that a reconciler is judged by judging its parts, and the judgement does not
depend on which state the backends have.
-/

namespace NetworkIsolation.Backend

/-- By which events one state is reached from another one. -/
structure Observation (σ ε : Type) where
  reaches : σ → List ε → σ → Prop
  stays : ∀ state, reaches state [] state
  joins : ∀ {first second third events further},
    reaches first events second → reaches second further third →
      reaches first (events ++ further) third

/-- What is put into a part of a state is found there, and nothing else is there. -/
def Part.Lawful {σ τ : Type} (part : Part σ τ) : Prop :=
  ∀ inner whole, part.get (part.set inner whole) = inner

namespace Observation

variable {σ τ ε α β : Type}

/-- A larger state is observed at one of its parts. -/
def lift (observation : Observation σ ε) (part : Part σ τ) : Observation τ ε where
  reaches before events after := observation.reaches (part.get before) events (part.get after)
  stays state := observation.stays (part.get state)
  joins first second := observation.joins first second

/-- Diagnostic notes are no events. -/
def Silent [Journal σ] (observation : Observation σ ε) : Prop :=
  ∀ entry state, observation.reaches state [] (Journal.record entry state)

/-- From a state the action emits events that fit its result. -/
def EmitsAt (observation : Observation σ ε) (state : σ) (action : StateM σ α)
    (fits : α → List ε → Prop) : Prop :=
  ∃ events, observation.reaches state events (action state).2 ∧ fits (action state).1 events

/-- From every state the action emits events that fit its result. -/
def Emits (observation : Observation σ ε) (action : StateM σ α)
    (fits : α → List ε → Prop) : Prop :=
  ∀ state, observation.EmitsAt state action fits

variable {observation : Observation σ ε}

theorem emits_pure {value : α} {fits : α → List ε → Prop} (fact : fits value []) :
    observation.Emits (pure value) fits := by
  intro state
  exact ⟨[], observation.stays state, fact⟩

theorem Emits.mono {action : StateM σ α} {fits wider : α → List ε → Prop}
    (emits : observation.Emits action fits)
    (implies : ∀ result events, fits result events → wider result events) :
    observation.Emits action wider := by
  intro state
  rcases emits state with ⟨events, reached, fact⟩
  exact ⟨events, reached, implies _ events fact⟩

/-- What follows an action is judged where the action ends, with its events in front. -/
theorem EmitsAt.bind {state : σ} {action : StateM σ α} {next : α → StateM σ β}
    {middle : α → List ε → Prop} {fits : β → List ε → Prop}
    (emits : observation.EmitsAt state action middle)
    (follows : ∀ events, middle (action state).1 events →
      observation.EmitsAt (action state).2 (next (action state).1)
        fun final further => fits final (events ++ further)) :
    observation.EmitsAt state (action >>= next) fits := by
  rcases emits with ⟨events, reached, fact⟩
  rcases follows events fact with ⟨further, finished, fact⟩
  exact ⟨events ++ further, observation.joins reached finished, fact⟩

/-- What follows an action is judged with the events that the action emitted in front. -/
theorem Emits.bind {action : StateM σ α} {next : α → StateM σ β}
    {middle : α → List ε → Prop} {fits : β → List ε → Prop}
    (emits : observation.Emits action middle)
    (follows : ∀ result events, middle result events →
      observation.Emits (next result) fun final further => fits final (events ++ further)) :
    observation.Emits (action >>= next) fits := by
  intro state
  exact (emits state).bind fun events fact => follows _ events fact _

/-- Looking at the state is not observed. -/
theorem Emits.after_get {next : σ → StateM σ β} {fits : β → List ε → Prop}
    (emits : ∀ state, observation.Emits (next state) fits) :
    observation.Emits (get >>= next) fits := by
  intro state
  exact emits state state

/-- A note in front of an action changes nothing that is observed. -/
theorem EmitsAt.after_note [Journal σ] (silent : observation.Silent)
    {component : Component} {level : Level} {message : String} {state : σ}
    {next : Unit → StateM σ β} {fits : β → List ε → Prop}
    (emits : observation.EmitsAt (Journal.record ⟨component, level, message⟩ state) (next ())
      fits) :
    observation.EmitsAt state (note component level message >>= next) fits := by
  rcases emits with ⟨events, reached, fact⟩
  exact ⟨events, observation.joins (silent _ state) reached, fact⟩

theorem Emits.after_note [Journal σ] (silent : observation.Silent)
    {component : Component} {level : Level} {message : String}
    {next : Unit → StateM σ β} {fits : β → List ε → Prop}
    (emits : observation.Emits (next ()) fits) :
    observation.Emits (note component level message >>= next) fits := by
  intro state
  exact (emits _).after_note silent

/-- An action on a part of a state emits what it emits on the part alone. -/
theorem Emits.lift {action : StateM σ α} {fits : α → List ε → Prop}
    (emits : observation.Emits action fits) {part : Part σ τ} (lawful : part.Lawful) :
    (observation.lift part).Emits (part.lift action) fits := by
  intro whole
  rcases emits (part.get whole) with ⟨events, reached, fact⟩
  refine ⟨events, ?_, fact⟩
  have found : part.get (part.lift action whole).2 = (action (part.get whole)).2 :=
    lawful _ whole
  change observation.reaches (part.get whole) events (part.get (part.lift action whole).2)
  rw [found]
  exact reached

end Observation

end NetworkIsolation.Backend
