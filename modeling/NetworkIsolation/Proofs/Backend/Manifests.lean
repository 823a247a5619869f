import NetworkIsolation.Backend.LoadBalancer
import NetworkIsolation.Proofs.Json.CompactReading

/-!
# Manifests on the wire

A manifest is fed to `kubectl` as compact JSON.  Whatever characters its names have, they
are read back from the text as they were: no name ends its own string early, and no two
resources have one text.

What may be lost is in the specification alone: its brackets may nest too deep, and its
numbers may be rounded.  A specification that is made of names and addresses nests two
brackets and holds no numbers, so that nothing of it is lost.
-/

namespace NetworkIsolation.Backend

open NetworkIsolation.Json

namespace Resource

/-- Whether nothing of a resource is lost when its manifest is read. -/
structure IsLegible (resource : Resource) : Prop where
  distinct : resource.spec.HasDistinctNames
  fits : resource.spec.depth < maxNesting
  kept : ∀ number ∈ resource.spec.numbers, number.reread = some number

/-- The resources that are made of names and addresses. -/
inductive IsBuilt : Resource → Prop where
  | addressPool (name space : String) (addresses : List String) :
      IsBuilt (.addressPool name space addresses)
  | advertisement (name space pool : String) : IsBuilt (.advertisement name space pool)

variable {resource : Resource}

theorem hasDistinctNames_manifest (distinct : resource.spec.HasDistinctNames) :
    resource.manifest.HasDistinctNames := by
  have outer : ["apiVersion", "kind", "metadata", "spec"].Nodup := by decide
  have inner : ["name", "namespace"].Nodup := by decide
  exact ⟨outer, trivial, trivial, ⟨inner, trivial, trivial, trivial⟩, distinct, trivial⟩

theorem depth_manifest (resource : Resource) :
    resource.manifest.depth = max 1 resource.spec.depth + 1 := by
  simp [manifest, Value.depth, Value.depthOfEntries]

theorem numbers_manifest (resource : Resource) :
    resource.manifest.numbers = resource.spec.numbers := by
  simp [manifest, Value.numbers, Value.numbersOfEntries]

/-- The manifest is read back from its text. -/
theorem IsLegible.parse_manifest (legible : resource.IsLegible) :
    Value.parse resource.manifest.compact = .ok resource.manifest := by
  have fits : resource.manifest.depth ≤ maxNesting := by
    have spec_fits := legible.fits
    rw [depth_manifest]
    simp only [maxNesting] at spec_fits ⊢
    omega
  have kept : ∀ number ∈ resource.manifest.numbers, number.reread = some number := by
    rw [numbers_manifest]
    exact legible.kept
  have read := Value.parse_compact (hasDistinctNames_manifest legible.distinct)
  rw [(Value.reread_eq_self maxNesting resource.manifest).mpr ⟨fits, kept⟩] at read
  exact toOption_eq_some.mp read

theorem isLegible_of_strings {name : String} {texts : List String}
    (spec : resource.spec = .object [(name, .strings texts)]) : resource.IsLegible := by
  rcases Value.strings_flat texts with ⟨distinct, depth, numbers⟩
  constructor
  · rw [spec]
    exact ⟨List.nodup_singleton _, distinct, trivial⟩
  · rw [spec]
    simp [Value.depth, Value.depthOfEntries, depth, maxNesting]
  · rw [spec]
    simp [Value.numbers, Value.numbersOfEntries, numbers]

theorem IsBuilt.isLegible (built : resource.IsBuilt) : resource.IsLegible := by
  cases built with
  | addressPool name space addresses => exact isLegible_of_strings rfl
  | advertisement name space pool => exact isLegible_of_strings rfl

theorem word_injective {first second : ResourceKind} (same : first.word = second.word) :
    first = second := by
  revert same
  cases first <;> cases second <;> decide

/-- Everything that a resource has is in its manifest. -/
theorem eq_of_manifest_eq {first second : Resource} (same : first.manifest = second.manifest) :
    first = second := by
  rcases first with ⟨kind, name, space, spec⟩
  rcases second with ⟨other_kind, other_name, other_space, other_spec⟩
  simp only [manifest, Value.object.injEq, List.cons.injEq, Prod.mk.injEq, Value.string.injEq,
    true_and, and_true] at same
  rcases same with ⟨same_word, ⟨rfl, rfl⟩, rfl⟩
  rw [word_injective same_word]

/-- Resources with one text on the wire are the same. -/
theorem eq_of_compact_eq {first second : Resource} (first_legible : first.IsLegible)
    (second_legible : second.IsLegible)
    (same : first.manifest.compact = second.manifest.compact) : first = second := by
  have first_read := first_legible.parse_manifest
  rw [same, second_legible.parse_manifest] at first_read
  exact (eq_of_manifest_eq (Except.ok.inj first_read)).symm

end Resource

end NetworkIsolation.Backend
