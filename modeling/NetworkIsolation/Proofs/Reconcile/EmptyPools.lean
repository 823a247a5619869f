import NetworkIsolation.Proofs.Reconcile.PoolTrace
import NetworkIsolation.Proofs.Text.Pieces

/-!
# Pools without addresses

Whether a role has a range is decided by the whole text of the range: a text that is blank
counts as absent.  The addresses of the pool are decided by the pieces between its commas:
a piece that is blank counts as absent.  The two agree on every text but those that have
nothing but commas and blank characters, and at least one comma.

Such a text has no address.  It is not blank, however, so the shared range does not step in
for it, and the pool that is submitted for it has nothing to hand out.
-/

namespace NetworkIsolation.Configuration

open NetworkIsolation.Text

/-! ## Ranges and their addresses -/

/-- A range holds an address if it has more than commas and blank characters. -/
def HoldsAddress (range : String) : Prop :=
  ∃ character ∈ range.toList, character ≠ ',' ∧ isBlank character = false

instance (range : String) : Decidable (HoldsAddress range) :=
  List.decidableBEx (fun character => character ≠ ',' ∧ isBlank character = false) range.toList

/-- There is an address in the list exactly if there is one in the range. -/
theorem addressList_ne_nil_iff {range : String} : addressList range ≠ [] ↔ HoldsAddress range := by
  rw [Ne, addressList, List.map_eq_nil_iff, trimmedPieces_eq_nil_iff]
  simp only [HoldsAddress, not_forall, not_or, Bool.not_eq_true, exists_prop]

/-- A range is not given exactly if it is blank. -/
theorem givenRange_eq_none_iff {range : String} :
    givenRange (some range) = none ↔ ∀ character ∈ range.toList, isBlank character = true := by
  have empty : (trim range).isEmpty = true ↔ trimChars range.toList = [] := by
    rw [trim, String.isEmpty_iff, ← String.toList_eq_nil_iff, String.toList_ofList]
  rw [givenRange, Option.bind_some, nonBlank, ← trimChars_eq_nil_iff, ← empty]
  split <;> simp_all

namespace PoolRanges

/-- The ranges with another range for a role, or with none. -/
def giving (ranges : PoolRanges) (range? : Option String) : PoolRole → PoolRanges
  | .publicSide => { ranges with publicRange := range? }
  | .internalSide => { ranges with internalRange := range? }

theorem get_resolve_giving (ranges : PoolRanges) (range? : Option String) (role : PoolRole) :
    ((ranges.giving range? role).resolve true).get role =
      (givenRange range?).or (givenRange ranges.sharedRange) := by
  cases role <;> rfl

/-- A range that is given for a role is as good as none exactly if it is blank. -/
theorem resolves_alike_iff {role : PoolRole} {range : String} :
    (∀ ranges : PoolRanges, ((ranges.giving (some range) role).resolve true).get role =
        ((ranges.giving .none role).resolve true).get role) ↔
      ∀ character ∈ range.toList, isBlank character = true := by
  simp only [get_resolve_giving, ← givenRange_eq_none_iff]
  constructor
  · intro alike
    simpa [givenRange, PoolRanges.none] using alike PoolRanges.none
  · intro absent ranges
    rw [absent]
    rfl

end PoolRanges

end NetworkIsolation.Configuration

namespace NetworkIsolation.Reconcile

open NetworkIsolation.Backend NetworkIsolation.Configuration NetworkIsolation.Json
open NetworkIsolation.Text

/-! ## Resources that are submitted -/

/-- Whether an address pool has an address to hand out. -/
def HasAddress (resource : Resource) : Prop :=
  ∃ address addresses, resource.spec = .object [("addresses", .strings (address :: addresses))]

variable {Handle : Type}

/-- The resource that the load balancer is asked to create or to replace. -/
def submitted? : OuterEvent Handle → Option Resource
  | .balancer (.create _ resource _) => some resource
  | .balancer (.replace _ _ resource _) => some resource
  | _ => none

theorem ResourceAnswer.submitted_of_mem_events {handle : Handle} {answer : ResourceAnswer}
    {event : OuterEvent Handle} (member : event ∈ answer.events handle) :
    submitted? event = some answer.resource := by
  rcases answer.event_cases member with ⟨reply, rfl⟩ | ⟨reply, rfl⟩ <;> rfl

theorem ResourceAnswer.creation_mem_events (handle : Handle) (answer : ResourceAnswer) :
    ∃ reply, .balancer (.create handle answer.resource reply) ∈ answer.events handle := by
  rcases answer with ⟨resource, placing⟩
  cases placing <;> exact ⟨_, List.mem_cons_self⟩

namespace PoolReconciler

variable {reconciler : PoolReconciler} {handle? : Option Handle}
  {result : StepOutcome × PoolProgress Handle} {events : List (OuterEvent Handle)}

/-- Only what is wanted is submitted. -/
theorem submitted_mem_wanted (trace : PoolTrace reconciler handle? result events)
    {event : OuterEvent Handle} (member : event ∈ events) {resource : Resource}
    (submits : submitted? event = some resource) : resource ∈ reconciler.wanted := by
  cases trace with
  | idle nothing => cases member
  | unconnected something absent cause =>
      rcases List.mem_singleton.mp member with rfl
      cases submits
  | connected something connects serves =>
      rcases List.mem_append.mp member with opening | serving
      · cases connects with
        | held => cases opening
        | opened =>
            rcases List.mem_singleton.mp opening with rfl
            cases submits
      · rcases serves.event_cases serving with ⟨answer, wanted, inside⟩ | ⟨asked, rfl⟩
        · cases (ResourceAnswer.submitted_of_mem_events inside).symm.trans submits
          exact wanted
        · cases submits

/-- A run that is completed has submitted everything that is wanted. -/
theorem exists_submitted_of_completed (trace : PoolTrace reconciler handle? result events)
    (completed : result.1 = .completed) {resource : Resource}
    (wanted : resource ∈ reconciler.wanted) :
    ∃ event ∈ events, submitted? event = some resource := by
  cases trace with
  | idle nothing =>
      rcases eq_of_mem_wanted wanted with ⟨role, range, given, -⟩
      rw [nothing role] at given
      cases given
  | unconnected something absent cause => cases completed
  | @connected _ handle opening serving connects failure progress serves =>
      cases failure with
      | some reason => cases completed
      | none =>
          rcases serves.exists_answer_to wanted with ⟨answer, rfl, inside⟩
          rcases answer.creation_mem_events handle with ⟨reply, created⟩
          exact ⟨_, List.mem_append_right _ (inside created), rfl⟩

theorem hasAddress_poolResource_iff (names : IsolationNames) (role : PoolRole) (range : String) :
    HasAddress (poolResource names role range) ↔ HoldsAddress range := by
  rw [← addressList_ne_nil_iff, List.ne_nil_iff_exists_cons]
  constructor
  · rintro ⟨address, addresses, same⟩
    simp only [poolResource, Resource.addressPool, Value.strings, Value.object.injEq,
      Value.array.injEq, List.cons.injEq, Prod.mk.injEq, true_and, and_true] at same
    rcases List.map_eq_cons_iff.mp same with ⟨first, rest, listed, -, -⟩
    exact ⟨first, rest, listed⟩
  · rintro ⟨address, addresses, same⟩
    refine ⟨address, addresses, ?_⟩
    rw [← same]
    rfl

/--
For every configuration, naming table, load balancer and fabric, handle that may be held, and
state that the run starts in: an address pool that is submitted is the pool of a role for the
range that was resolved, and it has an address exactly if the range holds one; a run that is
completed has submitted the pools of all ranges that were resolved, so none of the empty ones
is left out.  A range that is given for a role is treated as absent exactly if it is blank.
-/
theorem submitted_pool_hasAddress_iff {σ : Type} [Journal σ] (reconciler : PoolReconciler)
    (balancer : LoadBalancer σ Handle) (fabric : Fabric σ) (handle? : Option Handle)
    (start : Traced σ (OuterEvent Handle)) :
    (∃ result after events,
      reconciler.apply (balancer.traced OuterEvent.balancer) (fabric.traced OuterEvent.fabric)
        handle? start = (result, ⟨after, start.events ++ events⟩) ∧
      reconciler.apply balancer fabric handle? start.state = (result, after) ∧
      (∀ event ∈ events, ∀ resource, submitted? event = some resource →
        resource.kind = .addressPool →
          ∃ role range, reconciler.resolvedRanges.get role = some range ∧
            resource = poolResource reconciler.names role range ∧
            (HasAddress resource ↔ HoldsAddress range)) ∧
      (result.1 = .completed → ∀ role range, reconciler.resolvedRanges.get role = some range →
        ∃ event ∈ events, submitted? event = some (poolResource reconciler.names role range))) ∧
    ∀ role range,
      (∀ ranges : PoolRanges, ((ranges.giving (some range) role).resolve true).get role =
          ((ranges.giving none role).resolve true).get role) ↔
        ∀ character ∈ range.toList, isBlank character = true := by
  refine ⟨?_, fun role range => PoolRanges.resolves_alike_iff⟩
  rcases (records_apply balancer fabric reconciler handle?).exists_events start with
    ⟨result, after, events, traced, plain, trace⟩
  refine ⟨result, after, events, traced, plain, ?_, ?_⟩
  · intro event member resource submits is_pool
    rcases eq_of_mem_wanted (submitted_mem_wanted trace member submits) with
      ⟨role, range, given, rfl | rfl⟩
    · exact ⟨role, range, given, rfl, hasAddress_poolResource_iff reconciler.names role range⟩
    · cases is_pool
  · intro completed role range given
    exact exists_submitted_of_completed trace completed (pool_mem_wanted given)

/-- A reconciliation with a public range of one comma, and a shared range. -/
def commaPool : PoolReconciler :=
  ⟨true, ⟨some ",", none, some "10.0.0.0/24"⟩, {}⟩

/-- A comma is no address, but it is kept as a range, and an empty pool is created for it. -/
theorem submits_empty_pool_for_comma :
    ¬ HoldsAddress "," ∧
    commaPool.resolvedRanges = ⟨some ",", some "10.0.0.0/24"⟩ ∧
    (commaPool.apply (Simulation.loadBalancer.traced OuterEvent.balancer)
        ((Simulation.networkFabric "openstack").traced OuterEvent.fabric) none
        ⟨⟨{}, {}⟩, []⟩).2.events[1]? =
      some (.balancer (.create ()
        (.addressPool "sunbeam-public-pool" "metallb-system" []) (.ok ()))) :=
  ⟨by decide, rfl, rfl⟩

end PoolReconciler

end NetworkIsolation.Reconcile
