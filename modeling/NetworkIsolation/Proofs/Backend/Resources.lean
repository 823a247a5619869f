import NetworkIsolation.Backend.SimulatedBalancer

/-!
# Resources of a simulated load balancer

The resources are kept by key.  Putting one in place changes what is found under
its key and under no other key, and putting the one that is there already
changes nothing at all.  For several resources with different keys the same
holds of putting one after the other.

A key writes the namespace and the name into one text, with a slash in between.
Within one namespace it still tells two names apart.
-/

namespace NetworkIsolation.Backend

/-- Within a namespace, resources of one kind have different keys under different names. -/
theorem ResourceTarget.name_eq_of_key_eq (first second : ResourceTarget)
    (same_space : first.space = second.space) (same_key : first.key = second.key) :
    first.name = second.name := by
  have same_path : first.space ++ "/" ++ first.name = second.space ++ "/" ++ second.name :=
    congrArg ResourceKey.path same_key
  rw [same_space] at same_path
  have same_characters := congrArg String.toList same_path
  simp only [String.toList_append, List.append_assoc, List.append_cancel_left_eq]
    at same_characters
  exact String.toList_inj.mp same_characters

theorem ResourceTarget.kind_eq_of_key_eq {first second : ResourceTarget}
    (same_key : first.key = second.key) : first.kind = second.kind :=
  congrArg ResourceKey.kind same_key

namespace SimulatedBalancer

/-! ## One resource -/

theorem find?_putResource (key other : ResourceKey) (resource : Resource)
    (resources : List (ResourceKey × Resource)) :
    ((putResource key resource resources).find? fun entry => entry.1 = other) =
      if key = other then some (key, resource)
      else resources.find? fun entry => entry.1 = other := by
  induction resources with
  | nil =>
      by_cases same : key = other
      · simp [putResource, same]
      · simp [putResource, same]
  | cons entry rest induction_hypothesis =>
      by_cases found : entry.1 = key
      · by_cases same : key = other
        · simp [putResource, found, same]
        · simp [putResource, found, same]
      · by_cases same : entry.1 = other
        · have different : other ≠ key := by
            rw [← same]
            exact found
          simp [putResource, same, different, different.symm]
        · simp [putResource, found, same, induction_hypothesis]

theorem putResource_of_find? {key : ResourceKey} {resource : Resource}
    {resources : List (ResourceKey × Resource)}
    (found : (resources.find? fun entry => entry.1 = key) = some (key, resource)) :
    putResource key resource resources = resources := by
  induction resources with
  | nil => simp at found
  | cons entry rest induction_hypothesis =>
      by_cases same : entry.1 = key
      · have equal : entry = (key, resource) := by simpa [same] using found
        simp [putResource, equal]
      · have later : (rest.find? fun entry => entry.1 = key) = some (key, resource) := by
          simpa [same] using found
        simp [putResource, same, induction_hypothesis later]

@[simp]
theorem resource?_put_self (balancer : SimulatedBalancer) (key : ResourceKey)
    (resource : Resource) : (balancer.put key resource).resource? key = some resource := by
  simp [resource?, put, find?_putResource]

theorem resource?_put_of_ne (balancer : SimulatedBalancer) {key other : ResourceKey}
    (resource : Resource) (different : key ≠ other) :
    (balancer.put key resource).resource? other = balancer.resource? other := by
  simp [resource?, put, find?_putResource, different]

/-- Putting what is found under a key already changes nothing. -/
theorem put_of_resource? {balancer : SimulatedBalancer} {key : ResourceKey} {resource : Resource}
    (found : balancer.resource? key = some resource) : balancer.put key resource = balancer := by
  rcases Option.map_eq_some_iff.mp found with ⟨entry, entry_found, rfl⟩
  have same : entry.1 = key := by simpa using List.find?_some entry_found
  have whole : entry = (key, entry.2) := by rw [← same]
  rw [whole] at entry_found
  rw [put, putResource_of_find? entry_found]

/-! ## Several resources -/

/-- The balancer with resources put in place one after the other. -/
def putAll (balancer : SimulatedBalancer) (resources : List Resource) : SimulatedBalancer :=
  resources.foldl (fun kept resource => kept.put resource.target.key resource) balancer

@[simp]
theorem putAll_cons (balancer : SimulatedBalancer) (resource : Resource)
    (resources : List Resource) :
    balancer.putAll (resource :: resources) =
      (balancer.put resource.target.key resource).putAll resources := rfl

theorem putAll_append (balancer : SimulatedBalancer) (first second : List Resource) :
    balancer.putAll (first ++ second) = (balancer.putAll first).putAll second :=
  List.foldl_append

/-- Only the resources are changed. -/
theorem putAll_eq (balancer : SimulatedBalancer) (resources : List Resource) :
    balancer.putAll resources =
      { balancer with resources := (balancer.putAll resources).resources } := by
  induction resources generalizing balancer with
  | nil => rfl
  | cons resource resources induction_hypothesis =>
      exact induction_hypothesis (balancer.put resource.target.key resource)

/-- A key that belongs to none of the resources keeps what is found under it. -/
theorem resource?_putAll_of_ne {resources : List Resource} {key : ResourceKey}
    (different : ∀ resource ∈ resources, resource.target.key ≠ key)
    (balancer : SimulatedBalancer) :
    (balancer.putAll resources).resource? key = balancer.resource? key := by
  induction resources generalizing balancer with
  | nil => rfl
  | cons resource resources induction_hypothesis =>
      have rest_differs : ∀ other ∈ resources, other.target.key ≠ key := by
        intro other member
        exact different other (List.mem_cons_of_mem _ member)
      rw [putAll_cons, induction_hypothesis rest_differs]
      exact resource?_put_of_ne balancer resource (different resource List.mem_cons_self)

/-- Of resources with different keys each one is found afterwards. -/
theorem resource?_putAll_of_mem {resources : List Resource}
    (distinct : (resources.map fun resource => resource.target.key).Nodup)
    (balancer : SimulatedBalancer) {resource : Resource} (member : resource ∈ resources) :
    (balancer.putAll resources).resource? resource.target.key = some resource := by
  induction resources generalizing balancer with
  | nil => cases member
  | cons first resources induction_hypothesis =>
      rw [List.map_cons, List.nodup_cons] at distinct
      rcases distinct with ⟨first_differs, rest_distinct⟩
      rw [putAll_cons]
      rcases List.mem_cons.mp member with rfl | later
      · have untouched : ∀ other ∈ resources, other.target.key ≠ resource.target.key := by
          intro other other_member same
          exact first_differs (List.mem_map.mpr ⟨other, other_member, same⟩)
        rw [resource?_putAll_of_ne untouched, resource?_put_self]
      · exact induction_hypothesis rest_distinct _ later

/-- Resources that are all in place already can be put again without any change. -/
theorem putAll_of_resource? {resources : List Resource} {balancer : SimulatedBalancer}
    (found : ∀ resource ∈ resources, balancer.resource? resource.target.key = some resource) :
    balancer.putAll resources = balancer := by
  induction resources with
  | nil => rfl
  | cons resource resources induction_hypothesis =>
      rw [putAll_cons, put_of_resource? (found resource List.mem_cons_self)]
      apply induction_hypothesis
      intro other member
      exact found other (List.mem_cons_of_mem _ member)

end SimulatedBalancer

end NetworkIsolation.Backend
