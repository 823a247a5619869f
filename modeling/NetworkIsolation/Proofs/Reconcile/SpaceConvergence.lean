import NetworkIsolation.Proofs.Reconcile.SpaceWork

/-!
# Spaces converge

A reconciliation of spaces lists the spaces, works on those that are configured, and
sets the default space at the end.  When it is completed, the configured spaces are
as wanted and all others as before; when a space is refused, the same is true of the
spaces in front of it.  Doing it again finds the same space refused, and the spaces
that were worked on settled.
-/

namespace NetworkIsolation.Reconcile

open NetworkIsolation.Backend NetworkIsolation.Configuration NetworkIsolation.Text

namespace SpaceReconciler

variable {fabric before after : SimulatedFabric} {space failing : Space}
  {spaces front rest : List Space} {model name : String} {reconciler : SpaceReconciler}

/-! ## The whole application -/

/-- One application on a simulated fabric. -/
def simulate (reconciler : SpaceReconciler) (model : String) (fabric : SimulatedFabric) :
    (StepOutcome × SpaceProgress) × SimulatedFabric :=
  reconciler.apply (SimulatedFabric.fabric model) fabric

/-- The fabric after its spaces have been listed. -/
def listed (fabric : SimulatedFabric) : SimulatedFabric :=
  fabric.logged .listSpaces

/-- The configured spaces one after the other, after a listing. -/
def workThrough (reconciler : SpaceReconciler) (model : String) (fabric : SimulatedFabric) :
    (Option String × List (String × MutationOutcome)) × SimulatedFabric :=
  untilFailure (applySpace (SimulatedFabric.fabric model) (sorted fabric.spaces.names))
    reconciler.spaces (listed fabric)

theorem contains_sorted_names (fabric : SimulatedFabric) (name : String) :
    (sorted fabric.spaces.names).contains name = (listed fabric).spaces.has name := by
  rw [Bool.eq_iff_iff, List.contains_iff_mem, mem_sorted, ← Entries.has_iff]
  rfl

theorem simulate_of_unlisted (model : String) (fails : fabric.failListSpaces = true) :
    reconciler.simulate model fabric =
      ((.failed (oneLine ("unable to read model spaces: " ++
        SimulatedFabric.listRefusal.message)), {}), listed fabric) := by
  rw [simulate, apply, run_bind, SimulatedFabric.run_listSpaces, fails]
  rfl

theorem run_setDefaultSpace (reconciler : SpaceReconciler) (model : String)
    (fabric : SimulatedFabric) :
    (reconciler.setDefaultSpace (SimulatedFabric.fabric model) fabric).2 =
      fabric.logged (.setModelConfig ("default-space=" ++ reconciler.defaultSpace)) := by
  rw [setDefaultSpace, run_bind, SimulatedFabric.run_setModelConfig]
  cases fabric.failModelConfig <;> rfl

theorem simulate_of_failed (lists : fabric.failListSpaces = false) {reason : String}
    (failed : (reconciler.workThrough model fabric).1.1 = some reason) :
    (reconciler.simulate model fabric).1.1 = .failed reason ∧
      (reconciler.simulate model fabric).2 = (reconciler.workThrough model fabric).2 := by
  simp only [simulate, apply, run_bind, SimulatedFabric.run_listSpaces, lists, run_note,
    Bool.false_eq_true, if_false, SimulatedFabric.record_eq]
  rw [← listed, ← workThrough]
  rcases run : reconciler.workThrough model fabric with ⟨⟨failure, outcomes⟩, reached⟩
  rw [run] at failed
  cases failed
  exact ⟨rfl, rfl⟩

theorem simulate_of_worked (lists : fabric.failListSpaces = false)
    (succeeded : (reconciler.workThrough model fabric).1.1 = none) :
    (reconciler.simulate model fabric).1.1 = .completed ∧
      (reconciler.simulate model fabric).2 =
        (reconciler.workThrough model fabric).2.logged
          (.setModelConfig ("default-space=" ++ reconciler.defaultSpace)) := by
  simp only [simulate, apply, run_bind, SimulatedFabric.run_listSpaces, lists, run_note,
    Bool.false_eq_true, if_false, SimulatedFabric.record_eq]
  rw [← listed, ← workThrough]
  rcases run : reconciler.workThrough model fabric with ⟨⟨failure, outcomes⟩, reached⟩
  rw [run] at succeeded
  cases succeeded
  exact ⟨rfl, run_setDefaultSpace reconciler model reached⟩

theorem simulate_of_accepted (model : String)
    (distinct : (reconciler.spaces.map Space.name).Nodup)
    (lists : fabric.failListSpaces = false)
    (accepted : ∀ space ∈ reconciler.spaces, refuses fabric space = false) :
    (reconciler.simulate model fabric).1.1 = .completed ∧
      (reconciler.simulate model fabric).2 =
        (workAll (listed fabric) reconciler.spaces).logged
          (.setModelConfig ("default-space=" ++ reconciler.defaultSpace)) := by
  rcases untilFailure_of_accepted model (listed fabric) distinct
    (fun space _ => contains_sorted_names fabric space.name) accepted with ⟨succeeds, worked⟩
  rcases simulate_of_worked lists succeeds with ⟨completes, final⟩
  refine ⟨completes, ?_⟩
  rw [final, workThrough, worked]

theorem simulate_of_refused (model : String)
    (distinct : (reconciler.spaces.map Space.name).Nodup)
    (lists : fabric.failListSpaces = false)
    (split : reconciler.spaces = front ++ failing :: rest)
    (accepted : ∀ space ∈ front, refuses fabric space = false)
    (refused : refuses fabric failing = true) :
    (reconciler.simulate model fabric).1.1 = .failed (refusalMessage failing) ∧
      (reconciler.simulate model fabric).2 =
        (workAll (listed fabric) front).logged (.addSpace failing.name failing.subnets) := by
  rw [split] at distinct
  rcases untilFailure_of_refused model (listed fabric) distinct
    (fun space _ => contains_sorted_names fabric space.name) accepted refused with ⟨fails, worked⟩
  rw [← split] at fails worked
  rcases simulate_of_failed lists fails with ⟨failed, final⟩
  refine ⟨failed, ?_⟩
  rw [final, workThrough, worked]

/-- Either no configured space is refused, or there is a first one. -/
theorem accepted_or_first_refused (fabric : SimulatedFabric) (spaces : List Space) :
    (∀ space ∈ spaces, refuses fabric space = false) ∨
      ∃ front failing rest, spaces = front ++ failing :: rest ∧
        (∀ space ∈ front, refuses fabric space = false) ∧ refuses fabric failing = true := by
  cases found : spaces.find? (refuses fabric) with
  | none =>
      left
      intro space member
      simpa using List.find?_eq_none.mp found space member
  | some failing =>
      rcases List.find?_eq_some_iff_append.mp found with ⟨refused, front, rest, split, accepted⟩
      refine .inr ⟨front, failing, rest, split, ?_, refused⟩
      intro space member
      simpa using accepted space member

/-! ## Convergence -/

/-- What the fabric is after configured spaces have been worked on. -/
structure Converged (spaces : List Space) (before after : SimulatedFabric) : Prop where
  absent_is_added : ∀ space ∈ spaces, space.subnets ≠ [] →
    before.spaces.get? space.name = none →
      after.spaces.get? space.name = some space.subnets
  present_is_updated : ∀ space ∈ spaces, space.subnets ≠ [] →
    ∀ old, before.spaces.get? space.name = some old →
      after.spaces.get? space.name =
        some (if before.rejectUpdates then old else space.subnets)
  without_subnets_is_kept : ∀ space ∈ spaces, space.subnets = [] →
    after.spaces.get? space.name = before.spaces.get? space.name
  others_are_kept : ∀ name, (∀ space ∈ spaces, space.subnets ≠ [] → space.name ≠ name) →
    after.spaces.get? name = before.spaces.get? name
  setting_is_kept : setting after = setting before

theorem converged_of_workAll (distinct : (spaces.map Space.name).Nodup)
    (worked : after.spaces = (workAll (listed before) spaces).spaces)
    (same_setting : setting after = setting before) : Converged spaces before after := by
  have each : ∀ space ∈ spaces, after.spaces.get? space.name = expected before space := by
    intro space member
    rw [worked, get?_workAll_of_mem distinct member]
    rfl
  constructor
  · intro space member some_subnets absent
    rw [each space member, expected, absent]
    exact if_neg some_subnets
  · intro space member some_subnets old present
    rw [each space member, expected, present]
    cases rejects : before.rejectUpdates with
    | true => simp
    | false => simp [some_subnets]
  · intro space member empty
    rw [each space member, expected]
    cases before.spaces.get? space.name <;> simp [empty]
  · intro name different
    rw [worked, get?_workAll_of_ne different]
    rfl
  · exact same_setting

/-- Whether doing the same with a configured space again changes nothing. -/
def Settled (fabric : SimulatedFabric) (space : Space) : Prop :=
  space.subnets = [] ∨ ∃ current, fabric.spaces.get? space.name = some current ∧
    (fabric.rejectUpdates = true ∨ current = space.subnets)

theorem Converged.settled (converged : Converged spaces before after) :
    ∀ space ∈ spaces, Settled after space := by
  intro space member
  have same_rejection := rejectUpdates_of_setting converged.setting_is_kept
  by_cases empty : space.subnets = []
  · exact .inl empty
  · right
    cases found : before.spaces.get? space.name with
    | none => exact ⟨_, converged.absent_is_added space member empty found, .inr rfl⟩
    | some old =>
        refine ⟨_, converged.present_is_updated space member empty old found, ?_⟩
        rw [same_rejection]
        cases before.rejectUpdates with
        | true => exact .inl rfl
        | false => exact .inr rfl

theorem Settled.accepted (settled : Settled fabric space) : refuses fabric space = false := by
  rcases settled with empty | ⟨current, present, -⟩
  · simp [refuses, empty]
  · simp [refuses, Entries.has, present]

/-- The call that is made for a settled space. -/
def updateCalls (space : Space) : List FabricCall :=
  if space.subnets.isEmpty then [] else [.setSpaceSubnets space.name space.subnets]

/-- The fabric with calls written down. -/
def called (fabric : SimulatedFabric) (calls : List FabricCall) : SimulatedFabric :=
  { fabric with calls := fabric.calls ++ calls }

theorem workOn_of_settled (settled : Settled fabric space) :
    workOn fabric space = called fabric (updateCalls space) := by
  rw [workOn, updateCalls]
  by_cases empty : space.subnets.isEmpty = true
  · rw [if_pos empty, if_pos empty, called, List.append_nil]
  · rw [if_neg empty, if_neg empty]
    rcases settled with no_subnets | ⟨current, present, unchanged⟩
    · rw [no_subnets] at empty
      exact absurd rfl empty
    · have is_there : fabric.spaces.has space.name = true := by
        rw [Entries.has, present]
        rfl
      rw [is_there, if_pos rfl]
      by_cases rejects : fabric.rejectUpdates = true
      · rw [if_pos rejects]
        rfl
      · rcases unchanged with rejected | same
        · exact absurd rejected rejects
        · rw [same] at present
          rw [if_neg rejects, SimulatedFabric.putSpace, SimulatedFabric.logged,
            Entries.insert_of_get? present]
          rfl

/-- Working on settled spaces does nothing but call. -/
theorem workAll_of_settled (settled : ∀ space ∈ spaces, Settled fabric space) :
    workAll fabric spaces = called fabric (spaces.flatMap updateCalls) := by
  induction spaces generalizing fabric with
  | nil => rw [List.flatMap_nil, called, List.append_nil]; rfl
  | cons space spaces induction_hypothesis =>
      have rest_settled : ∀ other ∈ spaces, Settled (called fabric (updateCalls space)) other :=
        fun other member => settled other (List.mem_cons_of_mem _ member)
      rw [workAll_cons, workOn_of_settled (settled space List.mem_cons_self),
        induction_hypothesis rest_settled, List.flatMap_cons, called, called, called,
        List.append_assoc]

theorem not_mem_updateCalls (spaces : List Space) (name : String) (subnets : List String) :
    FabricCall.addSpace name subnets ∉ spaces.flatMap updateCalls := by
  intro member
  rcases List.mem_flatMap.mp member with ⟨space, -, among⟩
  rw [updateCalls] at among
  split at among
  · cases among
  · cases List.mem_singleton.mp among

theorem calls_workAll (fabric : SimulatedFabric) (spaces : List Space) :
    ∃ calls, (workAll fabric spaces).calls = fabric.calls ++ calls := by
  induction spaces generalizing fabric with
  | nil => exact ⟨[], (List.append_nil _).symm⟩
  | cons space spaces induction_hypothesis =>
      have head : ∃ calls, (workOn fabric space).calls = fabric.calls ++ calls := by
        rw [workOn]
        split
        · exact ⟨[], (List.append_nil _).symm⟩
        · split
          · split <;> exact ⟨_, rfl⟩
          · exact ⟨_, rfl⟩
      rcases head with ⟨calls, head⟩
      rcases induction_hypothesis (workOn fabric space) with ⟨further, tail⟩
      refine ⟨calls ++ further, ?_⟩
      rw [workAll_cons, tail, head, List.append_assoc]

/-- What a completed application comes to when it is repeated. -/
structure Repeated (before : SimulatedFabric)
    (run : (StepOutcome × SpaceProgress) × SimulatedFabric) : Prop where
  completes : run.1.1 = .completed
  spaces_stay : run.2.spaces = before.spaces
  adds_nothing : ∃ calls, run.2.calls = before.calls ++ calls ∧
    ∀ name subnets, FabricCall.addSpace name subnets ∉ calls

/-- What an application leaves behind that ended when a space could not be added. -/
structure StoppedAt (failing : Space) (front rest : List Space)
    (before after : SimulatedFabric) : Prop where
  last_call : ∃ calls, after.calls =
    before.calls ++ calls ++ [.addSpace failing.name failing.subnets]
  front_converged : Converged front before after
  rest_is_kept : ∀ space ∈ failing :: rest,
    after.spaces.get? space.name = before.spaces.get? space.name

theorem repeated_of_settled (distinct : (reconciler.spaces.map Space.name).Nodup)
    (lists : fabric.failListSpaces = false)
    (settled : ∀ space ∈ reconciler.spaces, Settled fabric space) :
    Repeated fabric (reconciler.simulate model fabric) := by
  rcases simulate_of_accepted model distinct lists
    (fun space member => (settled space member).accepted) with ⟨completes, final⟩
  have still_settled : ∀ space ∈ reconciler.spaces, Settled (listed fabric) space := settled
  rw [workAll_of_settled still_settled] at final
  constructor
  · exact completes
  · rw [final]
    rfl
  · refine ⟨[.listSpaces] ++ reconciler.spaces.flatMap updateCalls ++
      [.setModelConfig ("default-space=" ++ reconciler.defaultSpace)], ?_, ?_⟩
    · rw [final]
      simp [SimulatedFabric.logged, called, listed]
    · intro name subnets member
      have no_update := not_mem_updateCalls reconciler.spaces name subnets
      rw [List.mem_append, List.mem_append] at member
      rcases member with (listing | update) | default_space
      · cases List.mem_singleton.mp listing
      · exact no_update update
      · cases List.mem_singleton.mp default_space

theorem stoppedAt_of_refused (distinct : ((front ++ failing :: rest).map Space.name).Nodup)
    (final : after =
      (workAll (listed before) front).logged (.addSpace failing.name failing.subnets)) :
    StoppedAt failing front rest before after := by
  rw [List.map_append, List.nodup_append] at distinct
  rcases distinct with ⟨front_distinct, -, apart⟩
  have worked : after.spaces = (workAll (listed before) front).spaces := by
    rw [final]
    rfl
  have same_setting : setting after = setting before := by
    rw [final]
    exact setting_workAll (listed before) front
  have converged := converged_of_workAll front_distinct worked same_setting
  rcases calls_workAll (listed before) front with ⟨calls, written⟩
  constructor
  · refine ⟨.listSpaces :: calls, ?_⟩
    rw [final, SimulatedFabric.logged, written, listed, SimulatedFabric.logged,
      List.append_assoc before.calls, List.singleton_append]
  · exact converged
  · intro space member
    apply converged.others_are_kept
    intro other among _
    exact apart _ (List.mem_map_of_mem among) _ (List.mem_map_of_mem member)

/--
An application that is completed has brought every configured space with subnets to
what is wanted, as far as the fabric accepts updates, and has left all others alone.
One that is not completed has changed nothing, because the spaces could not be
listed, or has done the same for the spaces in front of the first one that could not
be added.  In every case a second application has the same outcome and changes no
space, and after a completed one it adds none.
-/
theorem apply_settles_spaces (distinct : (reconciler.spaces.map Space.name).Nodup)
    (model : String) (before : SimulatedFabric) :
    let first := reconciler.simulate model before
    let second := reconciler.simulate model first.2
    (first.1.1 = .completed →
      Converged reconciler.spaces before first.2 ∧ Repeated first.2 second) ∧
    ∀ reason, first.1.1 = .failed reason →
      (second.1.1 = .failed reason ∧ second.2.spaces = first.2.spaces) ∧
      ((before.failListSpaces = true ∧ first.2.spaces = before.spaces) ∨
        ∃ front failing rest, reconciler.spaces = front ++ failing :: rest ∧
          StoppedAt failing front rest before first.2) := by
  intro first second
  cases lists : before.failListSpaces with
  | true =>
      have run : first = _ := simulate_of_unlisted model lists
      have again : second = _ := simulate_of_unlisted model (by rw [run]; exact lists)
      rw [again, run]
      constructor
      · intro completed
        cases completed
      · rintro reason ⟨⟩
        exact ⟨⟨rfl, rfl⟩, .inl ⟨rfl, rfl⟩⟩
  | false =>
      rcases accepted_or_first_refused before reconciler.spaces with
        accepted | ⟨front, failing, rest, split, accepted, refused⟩
      · obtain ⟨completes, final⟩ := simulate_of_accepted model distinct lists accepted
        have same_setting : setting first.2 = setting before := by
          rw [final]
          exact setting_workAll (listed before) reconciler.spaces
        have worked : first.2.spaces = (workAll (listed before) reconciler.spaces).spaces := by
          rw [final]
          rfl
        have converged := converged_of_workAll distinct worked same_setting
        have still_lists := (failListSpaces_of_setting same_setting).trans lists
        constructor
        · intro _
          exact ⟨converged, repeated_of_settled distinct still_lists converged.settled⟩
        · intro reason failed
          rw [completes] at failed
          cases failed
      · obtain ⟨fails, final⟩ := simulate_of_refused model distinct lists split accepted
          refused
        have stopped : StoppedAt failing front rest before first.2 :=
          stoppedAt_of_refused (split ▸ distinct) final
        have settled := stopped.front_converged.settled
        have same_setting := stopped.front_converged.setting_is_kept
        have still_lists := (failListSpaces_of_setting same_setting).trans lists
        -- The space that was refused is still absent, and so it is refused again.
        have still_refused : refuses first.2 failing = true := by
          rw [refuses_congr same_setting (stopped.rest_is_kept failing List.mem_cons_self), refused]
        obtain ⟨fails_again, final_again⟩ := simulate_of_refused model distinct
          still_lists split (fun space member => (settled space member).accepted) still_refused
        have still_settled : ∀ space ∈ front, Settled (listed first.2) space := settled
        have same_spaces : second.2.spaces = first.2.spaces := by
          rw [final_again, workAll_of_settled still_settled]
          rfl
        constructor
        · intro completed
          rw [fails] at completed
          cases completed
        · intro reason failed
          rw [fails] at failed
          exact ⟨⟨fails_again.trans failed, same_spaces⟩,
            .inr ⟨front, failing, rest, split, stopped⟩⟩

/-- Four spaces, of which the last is to be left alone. -/
def fourSpaces : SpaceReconciler where
  enabled := true
  spaces := [⟨"management", ["10.0.0.0/24"]⟩, ⟨"storage", ["10.0.2.0/24"]⟩,
    ⟨"internal", ["10.0.3.0/24"]⟩, ⟨"spare", []⟩]
  defaultSpace := "management"

/-- A fabric with an outdated space, which refuses to add another one. -/
def refusingFabric : SimulatedFabric where
  spaces := [("storage", ["10.9.0.0/24"]), ("spare", [])]
  failingAdds := ["internal"]

theorem apply_settles_spaces_up_to_internal :
    (fourSpaces.spaces.map Space.name).Nodup ∧
      (fourSpaces.simulate "openstack" refusingFabric).1.1 =
        .failed (refusalMessage ⟨"internal", ["10.0.3.0/24"]⟩) ∧
      (fourSpaces.simulate "openstack" refusingFabric).2.spaces =
        [("storage", ["10.0.2.0/24"]), ("spare", []), ("management", ["10.0.0.0/24"])] ∧
      (fourSpaces.simulate "openstack"
        (fourSpaces.simulate "openstack" refusingFabric).2).2.spaces =
          (fourSpaces.simulate "openstack" refusingFabric).2.spaces := by
  have distinct : (fourSpaces.spaces.map Space.name).Nodup := by decide
  have failed : (fourSpaces.simulate "openstack" refusingFabric).1.1 =
      .failed (refusalMessage ⟨"internal", ["10.0.3.0/24"]⟩) := by decide +kernel
  rcases (apply_settles_spaces distinct "openstack" refusingFabric).2 _ failed with
    ⟨⟨-, spaces_stay⟩, -⟩
  exact ⟨distinct, failed, by decide +kernel, spaces_stay⟩

end SpaceReconciler

end NetworkIsolation.Reconcile
