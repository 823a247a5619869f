import NetworkIsolation.Proofs.Backend.Spaces
import NetworkIsolation.Proofs.Reconcile.Repetition
import NetworkIsolation.Reconcile.Spaces

/-!
# Working on configured spaces

A reconciliation of spaces decides from one listing which spaces are there, and then
changes the spaces while it goes on.  As no two configured spaces have the same
name, working on one of them does not change whether another one is there, and so
the listing stays right for all that are still to come.

What the work comes to is therefore told from the fabric alone: every configured
space is worked on, up to the first one that the fabric refuses to have.
-/

namespace NetworkIsolation.Reconcile

open NetworkIsolation.Backend NetworkIsolation.Configuration NetworkIsolation.Text

namespace SpaceReconciler

variable {fabric before after : SimulatedFabric} {space failing : Space}
  {spaces front rest : List Space} {live : List String} {model name : String}
  {reconciler : SpaceReconciler}

/-! ## One space -/

/-- Whether a configured space is neither there nor can be added. -/
def refuses (fabric : SimulatedFabric) (space : Space) : Bool :=
  !space.subnets.isEmpty && !fabric.spaces.has space.name &&
    fabric.failingAdds.contains space.name

/-- The message about a space that is refused. -/
def refusalMessage (space : Space) : String :=
  "failed to ensure space " ++ space.name ++ ": " ++
    oneLine (SimulatedFabric.addRefusal space.name).message

/-- The fabric after a configured space that is not refused has been worked on. -/
def workOn (fabric : SimulatedFabric) (space : Space) : SimulatedFabric :=
  if space.subnets.isEmpty then fabric
  else if fabric.spaces.has space.name then
    if fabric.rejectUpdates then fabric.logged (.setSpaceSubnets space.name space.subnets)
    else (fabric.logged (.setSpaceSubnets space.name space.subnets)).putSpace space.name
      space.subnets
  else
    (fabric.logged (.addSpace space.name space.subnets)).putSpace space.name space.subnets

theorem ensureSpace_of_present (listed : live.contains space.name = true)
    (present : fabric.spaces.has space.name = true) :
    ∃ outcome, outcome.isFailure = false ∧
      ensureSpace (SimulatedFabric.fabric model) live space fabric =
        (outcome, if fabric.rejectUpdates then
            fabric.logged (.setSpaceSubnets space.name space.subnets)
          else (fabric.logged (.setSpaceSubnets space.name space.subnets)).putSpace space.name
            space.subnets) := by
  rw [ensureSpace, if_pos listed, run_bind, SimulatedFabric.run_setSpaceSubnets, present]
  cases fabric.rejectUpdates with
  | true => exact ⟨_, rfl, rfl⟩
  | false => exact ⟨_, rfl, rfl⟩

theorem ensureSpace_of_absent (unlisted : live.contains space.name = false)
    (absent : fabric.spaces.has space.name = false) :
    ensureSpace (SimulatedFabric.fabric model) live space fabric =
      if fabric.failingAdds.contains space.name then
        (.failed (oneLine (SimulatedFabric.addRefusal space.name).message),
          fabric.logged (.addSpace space.name space.subnets))
      else
        (.created, (fabric.logged (.addSpace space.name space.subnets)).putSpace space.name
          space.subnets) := by
  rw [ensureSpace, unlisted, if_neg Bool.false_ne_true, run_bind, SimulatedFabric.run_addSpace,
    absent]
  cases fabric.failingAdds.contains space.name with
  | true => rfl
  | false => rfl

/-- A space that is not refused is worked on. -/
theorem applySpace_of_accepted (model : String)
    (agrees : live.contains space.name = fabric.spaces.has space.name)
    (accepted : refuses fabric space = false) :
    (applySpace (SimulatedFabric.fabric model) live space fabric).1.1 = none ∧
      (applySpace (SimulatedFabric.fabric model) live space fabric).2 = workOn fabric space := by
  rw [applySpace, workOn]
  by_cases empty : space.subnets.isEmpty = true
  · rw [if_pos empty, if_pos empty]
    exact ⟨rfl, rfl⟩
  · rw [if_neg empty, if_neg empty]
    cases present : fabric.spaces.has space.name with
    | true =>
        rw [present] at agrees
        rcases ensureSpace_of_present agrees present with ⟨outcome, no_failure, run⟩
        rw [run_bind, run]
        cases outcome with
        | failed reason => cases no_failure
        | created => exact ⟨rfl, rfl⟩
        | updated => exact ⟨rfl, rfl⟩
        | updateUnsupported reason => exact ⟨rfl, rfl⟩
    | false =>
        rw [present] at agrees
        have willing : fabric.failingAdds.contains space.name = false := by
          simpa [refuses, empty, present] using accepted
        rw [run_bind, ensureSpace_of_absent agrees present, willing]
        exact ⟨rfl, rfl⟩

theorem applySpace_of_refused (model : String)
    (agrees : live.contains space.name = fabric.spaces.has space.name)
    (refused : refuses fabric space = true) :
    applySpace (SimulatedFabric.fabric model) live space fabric =
      ((some (refusalMessage space), []),
        fabric.logged (.addSpace space.name space.subnets)) := by
  simp only [refuses, Bool.and_eq_true, Bool.not_eq_true'] at refused
  rcases refused with ⟨⟨some_subnets, absent⟩, listed⟩
  rw [absent] at agrees
  rw [applySpace, some_subnets, if_neg Bool.false_ne_true, run_bind,
    ensureSpace_of_absent agrees absent, listed]
  rfl

/-! ## What working on a space leaves alone -/

/-- What a fabric was told and has, apart from its spaces and the calls. -/
def setting (fabric : SimulatedFabric) : SimulatedFabric :=
  { fabric with spaces := [], calls := [] }

theorem rejectUpdates_of_setting (same : setting after = setting before) :
    after.rejectUpdates = before.rejectUpdates := by
  change (setting after).rejectUpdates = (setting before).rejectUpdates
  rw [same]

theorem failingAdds_of_setting (same : setting after = setting before) :
    after.failingAdds = before.failingAdds := by
  change (setting after).failingAdds = (setting before).failingAdds
  rw [same]

theorem failListSpaces_of_setting (same : setting after = setting before) :
    after.failListSpaces = before.failListSpaces := by
  change (setting after).failListSpaces = (setting before).failListSpaces
  rw [same]

theorem setting_workOn (fabric : SimulatedFabric) (space : Space) :
    setting (workOn fabric space) = setting fabric := by
  rw [workOn]
  split
  · rfl
  · split
    · split <;> rfl
    · rfl

theorem get?_workOn_of_ne (different : space.subnets ≠ [] → space.name ≠ name) :
    (workOn fabric space).spaces.get? name = fabric.spaces.get? name := by
  rw [workOn]
  split
  · rfl
  · rename_i some_subnets
    have names_differ := different (by simpa using some_subnets)
    split
    · split
      · rfl
      · exact Entries.get?_insert_of_ne _ _ names_differ
    · exact Entries.get?_insert_of_ne _ _ names_differ

/-- What is to be found under the name of a configured space. -/
def expected (fabric : SimulatedFabric) (space : Space) : Option (List String) :=
  match fabric.spaces.get? space.name with
  | none => if space.subnets = [] then none else some space.subnets
  | some old =>
    if space.subnets = [] ∨ fabric.rejectUpdates = true then some old else some space.subnets

theorem get?_workOn_self (fabric : SimulatedFabric) (space : Space) :
    (workOn fabric space).spaces.get? space.name = expected fabric space := by
  rw [workOn, expected]
  cases found : fabric.spaces.get? space.name with
  | none =>
      have absent : fabric.spaces.has space.name = false := by rw [Entries.has, found]; rfl
      by_cases empty : space.subnets = []
      · simp [empty, found]
      · simp [empty, absent, SimulatedFabric.putSpace, Entries.get?_insert_self]
  | some old =>
      have present : fabric.spaces.has space.name = true := by rw [Entries.has, found]; rfl
      by_cases empty : space.subnets = []
      · simp [empty, found]
      · by_cases rejects : fabric.rejectUpdates = true
        · simp [empty, present, rejects, SimulatedFabric.logged, found]
        · simp [empty, present, rejects, SimulatedFabric.putSpace, Entries.get?_insert_self]

/-! ## All spaces -/

/-- The fabric after configured spaces have been worked on one after the other. -/
def workAll (fabric : SimulatedFabric) (spaces : List Space) : SimulatedFabric :=
  spaces.foldl workOn fabric

@[simp]
theorem workAll_cons (fabric : SimulatedFabric) (space : Space) (spaces : List Space) :
    workAll fabric (space :: spaces) = workAll (workOn fabric space) spaces := rfl

theorem setting_workAll (fabric : SimulatedFabric) (spaces : List Space) :
    setting (workAll fabric spaces) = setting fabric := by
  induction spaces generalizing fabric with
  | nil => rfl
  | cons space spaces induction_hypothesis =>
      rw [workAll_cons, induction_hypothesis, setting_workOn]

theorem get?_workAll_of_ne
    (different : ∀ space ∈ spaces, space.subnets ≠ [] → space.name ≠ name) :
    (workAll fabric spaces).spaces.get? name = fabric.spaces.get? name := by
  induction spaces generalizing fabric with
  | nil => rfl
  | cons space spaces induction_hypothesis =>
      rw [workAll_cons,
        induction_hypothesis fun other member => different other (List.mem_cons_of_mem _ member)]
      exact get?_workOn_of_ne (different space List.mem_cons_self)

/-- A refusal and an expectation depend on what the fabric was told and has under one name. -/
theorem expected_congr (same_setting : setting after = setting before)
    (same_space : after.spaces.get? space.name = before.spaces.get? space.name) :
    expected after space = expected before space := by
  rw [expected, expected, same_space, rejectUpdates_of_setting same_setting]

theorem refuses_congr (same_setting : setting after = setting before)
    (same_space : after.spaces.get? space.name = before.spaces.get? space.name) :
    refuses after space = refuses before space := by
  rw [refuses, refuses, Entries.has, Entries.has, same_space,
    failingAdds_of_setting same_setting]

theorem get?_workAll_of_mem (distinct : (spaces.map Space.name).Nodup) (member : space ∈ spaces) :
    (workAll fabric spaces).spaces.get? space.name = expected fabric space := by
  induction spaces generalizing fabric with
  | nil => cases member
  | cons first spaces induction_hypothesis =>
      rw [List.map_cons, List.nodup_cons] at distinct
      rcases distinct with ⟨first_differs, rest_distinct⟩
      rw [workAll_cons]
      rcases List.mem_cons.mp member with rfl | later
      · have others_differ : ∀ other ∈ spaces, other.subnets ≠ [] → other.name ≠ space.name :=
          fun other among _ same => first_differs (List.mem_map.mpr ⟨other, among, same⟩)
        rw [get?_workAll_of_ne others_differ, get?_workOn_self]
      · have names_differ : first.name ≠ space.name :=
          fun same => first_differs (List.mem_map.mpr ⟨space, later, same.symm⟩)
        rw [induction_hypothesis rest_distinct later]
        exact expected_congr (setting_workOn fabric first) (get?_workOn_of_ne fun _ => names_differ)

/--
As long as no space is refused, all are worked on.  The listing agrees with the
fabric about the spaces that are still to come, because their names are different
from the name of the one that is being worked on.
-/
theorem untilFailure_of_accepted (model : String) (fabric : SimulatedFabric)
    (distinct : (spaces.map Space.name).Nodup)
    (agrees : ∀ space ∈ spaces, live.contains space.name = fabric.spaces.has space.name)
    (accepted : ∀ space ∈ spaces, refuses fabric space = false) :
    (untilFailure (applySpace (SimulatedFabric.fabric model) live) spaces fabric).1.1 = none ∧
      (untilFailure (applySpace (SimulatedFabric.fabric model) live) spaces fabric).2 =
        workAll fabric spaces := by
  induction spaces generalizing fabric with
  | nil => exact ⟨rfl, rfl⟩
  | cons space spaces induction_hypothesis =>
      rw [List.map_cons, List.nodup_cons] at distinct
      rcases distinct with ⟨first_differs, rest_distinct⟩
      have other_names : ∀ other ∈ spaces, space.name ≠ other.name :=
        fun other among same => first_differs (List.mem_map.mpr ⟨other, among, same.symm⟩)
      have same_space : ∀ other ∈ spaces,
          (workOn fabric space).spaces.get? other.name = fabric.spaces.get? other.name :=
        fun other among => get?_workOn_of_ne fun _ => other_names other among
      obtain ⟨succeeds, worked⟩ := applySpace_of_accepted model
        (agrees space List.mem_cons_self) (accepted space List.mem_cons_self)
      rw [untilFailure_cons_of_none succeeds, worked]
      refine induction_hypothesis (workOn fabric space) rest_distinct ?_ ?_
      · intro other among
        rw [agrees other (List.mem_cons_of_mem _ among), Entries.has, Entries.has,
          same_space other among]
      · intro other among
        rw [refuses_congr (setting_workOn fabric space) (same_space other among)]
        exact accepted other (List.mem_cons_of_mem _ among)

/-- The first space that is refused ends the work. -/
theorem untilFailure_of_refused (model : String) (fabric : SimulatedFabric)
    (distinct : ((front ++ failing :: rest).map Space.name).Nodup)
    (agrees : ∀ space ∈ front ++ failing :: rest,
      live.contains space.name = fabric.spaces.has space.name)
    (accepted : ∀ space ∈ front, refuses fabric space = false)
    (refused : refuses fabric failing = true) :
    (untilFailure (applySpace (SimulatedFabric.fabric model) live) (front ++ failing :: rest)
        fabric).1.1 = some (refusalMessage failing) ∧
      (untilFailure (applySpace (SimulatedFabric.fabric model) live) (front ++ failing :: rest)
        fabric).2 = (workAll fabric front).logged (.addSpace failing.name failing.subnets) := by
  rw [List.map_append, List.nodup_append] at distinct
  rcases distinct with ⟨front_distinct, -, apart⟩
  have names_differ : ∀ space ∈ front, space.subnets ≠ [] → space.name ≠ failing.name :=
    fun space member _ => apart _ (List.mem_map_of_mem member) _ List.mem_cons_self
  have same_space :
      (workAll fabric front).spaces.get? failing.name = fabric.spaces.get? failing.name :=
    get?_workAll_of_ne names_differ
  obtain ⟨succeeds, worked⟩ := untilFailure_of_accepted model fabric front_distinct
    (fun space member => agrees space (List.mem_append_left _ member)) accepted
  have still_agrees :
      live.contains failing.name = (workAll fabric front).spaces.has failing.name := by
    rw [agrees failing (List.mem_append_right _ List.mem_cons_self), Entries.has, Entries.has,
      same_space]
  have still_refused : refuses (workAll fabric front) failing = true := by
    rw [refuses_congr (setting_workAll fabric front) same_space, refused]
  have stops := applySpace_of_refused model still_agrees still_refused
  rw [untilFailure_append_of_none succeeds, worked,
    untilFailure_cons_of_some (congrArg (fun run => run.1.1) stops), stops]
  exact ⟨rfl, rfl⟩

end SpaceReconciler

end NetworkIsolation.Reconcile
