/-!
# Results without their errors

Two ways of reading a text that give the same value may differ in the errors they
report.  They are compared by what they give, and the equations here follow that
through the sequencing of results.

An action that may fail keeps what it has changed.  It is followed from the state
in which it starts, as long as nothing fails.
-/

namespace NetworkIsolation

variable {ε α β : Type}

@[simp]
theorem toOption_ok (value : α) : (Except.ok value : Except ε α).toOption = some value := rfl

@[simp]
theorem toOption_error (error : ε) : (Except.error error : Except ε α).toOption = none := rfl

@[simp]
theorem toOption_pure (value : α) : (pure value : Except ε α).toOption = some value := rfl

@[simp]
theorem ok_bind (value : α) (next : α → Except ε β) : Except.ok value >>= next = next value := rfl

theorem toOption_bind (result : Except ε α) (next : α → Except ε β) :
    (result >>= next).toOption = result.toOption.bind fun value => (next value).toOption := by
  cases result <;> rfl

theorem toOption_map (result : Except ε α) (change : α → β) :
    (result.map change).toOption = result.toOption.map change := by
  cases result <;> rfl

theorem bind_eq_ok {result : Except ε α} {next : α → Except ε β} {final : β} :
    result >>= next = .ok final ↔ ∃ value, result = .ok value ∧ next value = .ok final := by
  cases result with
  | error error =>
      constructor
      · intro impossible
        cases impossible
      · rintro ⟨value, impossible, -⟩
        cases impossible
  | ok value =>
      constructor
      · intro followed
        exact ⟨value, rfl, followed⟩
      · rintro ⟨_, ⟨⟩, followed⟩
        exact followed

theorem toOption_eq_some {result : Except ε α} {value : α} :
    result.toOption = some value ↔ result = .ok value := by
  cases result <;> simp

@[simp]
theorem mapError_ok {ε' : Type} (value : α) (change : ε → ε') :
    (Except.ok value : Except ε α).mapError change = .ok value := rfl

theorem mapError_eq_ok {ε' : Type} {result : Except ε α} {change : ε → ε'} {value : α} :
    result.mapError change = .ok value ↔ result = .ok value := by
  cases result with
  | error error =>
      constructor <;> (intro impossible; cases impossible)
  | ok found =>
      constructor <;> (intro same; cases same; rfl)

theorem bind_eq_error {result : Except ε α} {next : α → Except ε β} {cause : ε} :
    result >>= next = .error cause ↔
      result = .error cause ∨ ∃ value, result = .ok value ∧ next value = .error cause := by
  cases result with
  | error other =>
      constructor
      · intro failed
        cases failed
        exact .inl rfl
      · rintro (⟨⟨⟩⟩ | ⟨value, impossible, -⟩)
        · rfl
        · cases impossible
  | ok value =>
      constructor
      · intro failed
        exact .inr ⟨value, rfl, failed⟩
      · rintro (impossible | ⟨_, ⟨⟩, failed⟩)
        · cases impossible
        · exact failed

theorem mapError_eq_error {ε' : Type} {result : Except ε α} {change : ε → ε'} {cause : ε'} :
    result.mapError change = .error cause ↔
      ∃ before, result = .error before ∧ change before = cause := by
  cases result with
  | error before =>
      constructor
      · intro same
        cases same
        exact ⟨before, rfl, rfl⟩
      · rintro ⟨_, ⟨⟩, rfl⟩
        rfl
  | ok value =>
      constructor
      · intro impossible
        cases impossible
      · rintro ⟨_, impossible, -⟩
        cases impossible

theorem toOption_mapError {ε' : Type} (result : Except ε α) (change : ε → ε') :
    (result.mapError change).toOption = result.toOption := by
  cases result <;> rfl

theorem toOption_ite (condition : Prop) [Decidable condition] (first second : Except ε α) :
    (if condition then first else second).toOption =
      if condition then first.toOption else second.toOption :=
  apply_ite Except.toOption condition first second

/-- What is read of each item decides what is read of all of them. -/
theorem map_of_mapM_ok {ι γ : Type} {read : ι → Except ε α} {get : α → γ} {expected : ι → γ}
    (each : ∀ item value, read item = .ok value → get value = expected item)
    {items : List ι} {values : List α} (done : items.mapM read = .ok values) :
    values.map get = items.map expected := by
  induction items generalizing values with
  | nil =>
      cases done
      rfl
  | cons item items induction_hypothesis =>
      rw [List.mapM_cons] at done
      rcases bind_eq_ok.mp done with ⟨value, value_read, others_read⟩
      rcases bind_eq_ok.mp others_read with ⟨others, rest_read, same⟩
      cases same
      rw [List.map_cons, List.map_cons, each item value value_read,
        induction_hypothesis rest_read]

/-- All items are read exactly if each of them is. -/
theorem exists_mapM_ok_iff {ι : Type} {read : ι → Except ε α} {items : List ι} :
    (∃ values, items.mapM read = .ok values) ↔ ∀ item ∈ items, ∃ value, read item = .ok value := by
  induction items with
  | nil => exact ⟨fun _ _ member => absurd member List.not_mem_nil, fun _ => ⟨[], rfl⟩⟩
  | cons item items induction_hypothesis =>
      rw [List.forall_mem_cons, ← induction_hypothesis, List.mapM_cons]
      constructor
      · rintro ⟨values, done⟩
        rcases bind_eq_ok.mp done with ⟨value, value_read, others_read⟩
        rcases bind_eq_ok.mp others_read with ⟨others, rest_read, -⟩
        exact ⟨⟨value, value_read⟩, others, rest_read⟩
      · rintro ⟨⟨value, value_read⟩, others, rest_read⟩
        rw [value_read, rest_read]
        exact ⟨value :: others, rfl⟩

/-! ## Actions that may fail -/

variable {σ : Type} {action : ExceptT ε (StateM σ) α} {next : α → ExceptT ε (StateM σ) β}
  {state after : σ} {value : α}

theorem run_bind_cont : (action >>= next).run state =
    ExceptT.bindCont next (action.run state).1 (action.run state).2 := rfl

theorem run_get_bind (next : σ → ExceptT ε (StateM σ) α) :
    (get >>= next).run state = (next state).run state := rfl

theorem run_bind_of_ok (done : action.run state = (.ok value, after)) :
    (action >>= next).run state = (next value).run after := by
  rw [run_bind_cont, done]
  rfl

theorem run_bind_of_error {cause : ε} (failed : action.run state = (.error cause, after)) :
    (action >>= next).run state = (.error cause, after) := by
  rw [run_bind_cont, failed]
  rfl

theorem run_tryCatch_of_ok {handle : ε → ExceptT ε (StateM σ) α}
    (done : action.run state = (.ok value, after)) :
    (tryCatch action handle).run state = (.ok value, after) := by
  change (match (action.run state).1 with
    | .ok value => (pure (.ok value) : StateM σ (Except ε α))
    | .error cause => handle cause) (action.run state).2 = _
  rw [done]
  rfl

theorem run_tryCatch_of_error {cause : ε} {handle : ε → ExceptT ε (StateM σ) α}
    (failed : action.run state = (.error cause, after)) :
    (tryCatch action handle).run state = (handle cause).run after := by
  change (match (action.run state).1 with
    | .ok value => (pure (.ok value) : StateM σ (Except ε α))
    | .error cause => handle cause) (action.run state).2 = _
  rw [failed]
  rfl

/-- A result is not changed by the state, nor does it change it. -/
theorem run_liftM_result (result : Except ε α) (state : σ) :
    (liftM result : ExceptT ε (StateM σ) α).run state = (result, state) := rfl

/-- An action that cannot fail does not fail among those that may. -/
theorem run_liftM_action (action : StateM σ α) (state : σ) :
    (liftM action : ExceptT ε (StateM σ) α).run state =
      (.ok (action state).1, (action state).2) := rfl

theorem ok_of_run_bind {final : β} (done : (action >>= next).run state = (.ok final, after)) :
    ∃ value between, action.run state = (.ok value, between) ∧
      (next value).run between = (.ok final, after) := by
  cases reached : action.run state with
  | mk result between =>
      rw [run_bind_cont, reached] at done
      cases result with
      | error error => cases done
      | ok value => exact ⟨value, between, rfl, done⟩

/-- Sequences that begin alike and go on alike from where they are do the same. -/
theorem run_bind_congr {other : ExceptT ε (StateM σ) α} {follow : α → ExceptT ε (StateM σ) β}
    (first : action.run state = other.run state)
    (rest : ∀ value between, other.run state = (.ok value, between) →
      (next value).run between = (follow value).run between) :
    (action >>= next).run state = (other >>= follow).run state := by
  rw [run_bind_cont, run_bind_cont, first]
  rcases reached : other.run state with ⟨cause | value, between⟩
  · rfl
  · exact rest value between reached

/-- A sequence of actions fails in the first one or in what follows it. -/
theorem error_of_run_bind {cause : ε}
    (failed : (action >>= next).run state = (.error cause, after)) :
    action.run state = (.error cause, after) ∨
      ∃ value between, action.run state = (.ok value, between) ∧
        (next value).run between = (.error cause, after) := by
  cases reached : action.run state with
  | mk result between =>
      rw [run_bind_cont, reached] at failed
      cases result with
      | error error =>
          cases failed
          exact .inl rfl
      | ok value => exact .inr ⟨value, between, rfl, failed⟩

/-- What holds of the state after an action and is kept by what follows it on success. -/
theorem state_of_run_bind (holds : σ → Prop) (first : holds (action.run state).2)
    (follows : ∀ value between, action.run state = (.ok value, between) → holds between →
      holds ((next value).run between).2) : holds ((action >>= next).run state).2 := by
  cases reached : action.run state with
  | mk result between =>
      rw [reached] at first
      rw [run_bind_cont, reached]
      cases result with
      | error error => exact first
      | ok value => exact follows value between reached first

theorem run_adapt_of_ok {ε' : Type} (change : ε → ε')
    (done : action.run state = (.ok value, after)) :
    (action.adapt change).run state = (.ok value, after) := by
  change (Except.mapError change <$> action.run : StateM σ (Except ε' α)) state = _
  change ((action.run state).1.mapError change, (action.run state).2) = _
  rw [done]
  rfl

theorem ok_of_run_adapt {ε' : Type} {change : ε → ε'}
    (done : (action.adapt change).run state = (.ok value, after)) :
    action.run state = (.ok value, after) := by
  change ((action.run state).1.mapError change, (action.run state).2) = _ at done
  cases reached : action.run state with
  | mk result between =>
      rw [reached] at done
      cases result with
      | error error => cases done
      | ok found =>
          cases done
          rfl

end NetworkIsolation
