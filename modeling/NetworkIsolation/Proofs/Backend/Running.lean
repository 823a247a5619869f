import NetworkIsolation.Backend.State

/-!
# Running an action from a state

What the building blocks of an action do to a state.  With these equations an
action is followed step by step from where it starts.

`Inspects` is for actions that only look: their result is decided by a view of the
state, and the view stays as it is.  `Yields` is for what is known of a result
whatever the state was.
-/

namespace NetworkIsolation.Backend

variable {σ τ ν α β : Type}

@[simp]
theorem run_pure (value : α) (state : σ) : (pure value : StateM σ α) state = (value, state) := rfl

@[simp]
theorem run_bind (action : StateM σ α) (next : α → StateM σ β) (state : σ) :
    (action >>= next) state = next (action state).1 (action state).2 := rfl

@[simp]
theorem run_map (change : α → β) (action : StateM σ α) (state : σ) :
    (change <$> action) state = (change (action state).1, (action state).2) := rfl

@[simp]
theorem run_ite (condition : Prop) [Decidable condition] (first second : StateM σ α)
    (state : σ) :
    (if condition then first else second) state =
      if condition then first state else second state :=
  apply_ite (fun action : StateM σ α => action state) condition first second

theorem run_ite_pure (condition : Prop) [Decidable condition] (first second : α) (state : σ) :
    (if condition then (pure first : StateM σ α) else pure second) state =
      (if condition then first else second, state) := by
  split <;> rfl

@[simp]
theorem run_get (state : σ) : (get : StateM σ σ) state = (state, state) := rfl

theorem run_get_bind (next : σ → StateM σ α) (state : σ) :
    (get >>= next) state = next state state := rfl

@[simp]
theorem run_set (after state : σ) : (set after : StateM σ PUnit) state = (⟨⟩, after) := rfl

@[simp]
theorem run_note [Journal σ] (component : Component) (level : Level) (message : String)
    (state : σ) :
    note component level message state =
      ((), Journal.record ⟨component, level, message⟩ state) := rfl

@[simp]
theorem Part.run_lift (part : Part σ τ) (action : StateM σ α) (whole : τ) :
    part.lift action whole =
      ((action (part.get whole)).1, part.set (action (part.get whole)).2 whole) := rfl

/-! ## Actions that only look -/

variable {view : σ → ν}

/-- From states with the same view the action gives the same result, and the view stays. -/
def Inspects (view : σ → ν) (action : StateM σ α) : Prop :=
  ∀ first second, view first = view second →
    (action first).1 = (action second).1 ∧ view (action first).2 = view first

theorem inspects_pure (value : α) : Inspects view (pure value) := by
  intro first second same
  exact ⟨rfl, rfl⟩

theorem Inspects.bind {action : StateM σ α} {next : α → StateM σ β}
    (inspects : Inspects view action) (follows : ∀ value, Inspects view (next value)) :
    Inspects view (action >>= next) := by
  intro first second same
  rcases inspects first second same with ⟨same_result, first_stays⟩
  rcases inspects second first same.symm with ⟨-, second_stays⟩
  have still_same : view (action first).2 = view (action second).2 := by
    rw [first_stays, second_stays, same]
  rcases follows (action first).1 _ _ still_same with ⟨same_final, final_stays⟩
  constructor
  · rw [run_bind, run_bind, ← same_result]
    exact same_final
  · rw [run_bind, final_stays, first_stays]

/-- Nobody looks at the notes, if the view does not show them. -/
theorem inspects_note [Journal σ]
    (unseen : ∀ entry state, view (Journal.record entry state) = view state)
    (component : Component) (level : Level) (message : String) :
    Inspects view (note component level message) := by
  intro first second same
  exact ⟨rfl, unseen _ first⟩

/-! ## What an action gives -/

/-- Whatever state the action starts in, its result fits. -/
def Yields (action : StateM σ α) (fits : α → Prop) : Prop :=
  ∀ state, fits (action state).1

theorem yields_pure {value : α} {fits : α → Prop} (fact : fits value) :
    Yields (pure value : StateM σ α) fits :=
  fun _ => fact

theorem Yields.bind {action : StateM σ α} {next : α → StateM σ β} {middle : α → Prop}
    {fits : β → Prop} (yields : Yields action middle)
    (follows : ∀ value, middle value → Yields (next value) fits) :
    Yields (action >>= next) fits := by
  intro state
  exact follows _ (yields state) _

/-- Of an action in front nothing has to be known. -/
theorem Yields.after {action : StateM σ α} {next : α → StateM σ β} {fits : β → Prop}
    (follows : ∀ value, Yields (next value) fits) : Yields (action >>= next) fits := by
  intro state
  exact follows _ _

end NetworkIsolation.Backend
