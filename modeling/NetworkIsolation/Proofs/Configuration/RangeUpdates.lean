import Mathlib.Data.List.Forall2
import NetworkIsolation.Proofs.Configuration.Answers

/-!
# Ranges that are written over ranges

The ranges are variables of the add-ons section, which may have any others.  A write puts
a variable in its place or at the end, and the removal of a variable moves the last one
into the gap, so the order of the variables depends on everything that was ever written.

Up to this order a write is described by what is there afterwards: the variables that hold
no range, as they were, and the ranges that are given.  Nothing of the ranges from before
is left in this description, so of two writes the second alone counts.
-/

namespace NetworkIsolation.Configuration

open NetworkIsolation.Json

/-! ## Variables after a write -/

/-- The variables that hold ranges. -/
def rangeVariables : List String :=
  [publicVariable, internalVariable, sharedVariable]

/-- The variables that hold no range. -/
def otherVariables (part : Bucket) : Bucket :=
  part.filter fun entry => entry.1 ∉ rangeVariables

/-- The variable of a range, if the range is given. -/
def givenVariable (name : String) (range : Option String) : Bucket :=
  (range.map fun text => (name, Value.string text)).toList

/-- The variables of the ranges that are given. -/
def givenVariables (ranges : PoolRanges) : Bucket :=
  givenVariable publicVariable ranges.publicRange ++
    givenVariable internalVariable ranges.internalRange ++
    givenVariable sharedVariable ranges.sharedRange

theorem mem_givenVariable {name : String} {range : Option String} {entry : String × Value}
    (member : entry ∈ givenVariable name range) : ∃ text, entry = (name, .string text) := by
  cases range with
  | none => cases member
  | some text => exact ⟨text, List.mem_singleton.mp member⟩

/-- What is given are texts under the names of ranges. -/
theorem mem_givenVariables {ranges : PoolRanges} {entry : String × Value}
    (member : entry ∈ givenVariables ranges) :
    ∃ name ∈ rangeVariables, ∃ text, entry = (name, .string text) := by
  rcases List.mem_append.mp member with early | shared
  · rcases List.mem_append.mp early with first | second
    · exact ⟨publicVariable, by simp [rangeVariables], mem_givenVariable first⟩
    · exact ⟨internalVariable, by simp [rangeVariables], mem_givenVariable second⟩
  · exact ⟨sharedVariable, by simp [rangeVariables], mem_givenVariable shared⟩

section

variable {part kept given : Bucket} {name : String}

theorem setVariable_perm (distinct : (part.map Prod.fst).Nodup) (name : String)
    (text? : Option String) :
    (setVariable part name text?).Perm
      (part.filter (fun entry => entry.1 ≠ name) ++ givenVariable name text?) := by
  cases text? with
  | none =>
      change (part.swapErase name).Perm (_ ++ [])
      rw [List.append_nil]
      exact Entries.swapErase_perm distinct name
  | some text => exact Entries.insert_perm distinct name _

/-- A write behind the variables that have been given leaves these alone. -/
theorem setVariable_perm_given (distinct : (part.map Prod.fst).Nodup)
    (same : part.Perm (kept ++ given)) (elsewhere : ∀ entry ∈ given, entry.1 ≠ name)
    (text? : Option String) :
    (setVariable part name text?).Perm
      (kept.filter (fun entry => entry.1 ≠ name) ++ (given ++ givenVariable name text?)) := by
  have given_stays : given.filter (fun entry => entry.1 ≠ name) = given :=
    List.filter_eq_self.mpr fun entry member => by simpa using elsewhere entry member
  have left := same.filter fun entry => entry.1 ≠ name
  rw [List.filter_append, given_stays] at left
  rw [← List.append_assoc]
  exact (setVariable_perm distinct name text?).trans (left.append_right _)

/-- After a write there are the variables that hold no range and those that are given. -/
theorem setRangeVariables_perm (distinct : (part.map Prod.fst).Nodup) (ranges : PoolRanges) :
    (setRangeVariables part ranges).Perm (otherVariables part ++ givenVariables ranges) := by
  have after_public := nodup_names_setVariable distinct publicVariable ranges.publicRange
  have after_internal :=
    nodup_names_setVariable after_public internalVariable ranges.internalRange
  have public_elsewhere : ∀ entry ∈ givenVariable publicVariable ranges.publicRange,
      entry.1 ≠ internalVariable ∧ entry.1 ≠ sharedVariable := by
    intro entry member
    rcases mem_givenVariable member with ⟨text, rfl⟩
    exact ⟨(by decide : publicVariable ≠ internalVariable),
      (by decide : publicVariable ≠ sharedVariable)⟩
  have internal_elsewhere : ∀ entry ∈ givenVariable internalVariable ranges.internalRange,
      entry.1 ≠ sharedVariable := by
    intro entry member
    rcases mem_givenVariable member with ⟨text, rfl⟩
    exact (by decide : internalVariable ≠ sharedVariable)
  have first := setVariable_perm distinct publicVariable ranges.publicRange
  have second := setVariable_perm_given after_public first
    (fun entry member => (public_elsewhere entry member).1) ranges.internalRange
  have both_elsewhere : ∀ entry ∈ givenVariable publicVariable ranges.publicRange ++
      givenVariable internalVariable ranges.internalRange, entry.1 ≠ sharedVariable :=
    fun entry member => (List.mem_append.mp member).elim
      (fun given => (public_elsewhere entry given).2) (internal_elsewhere entry)
  have third := setVariable_perm_given after_internal second both_elsewhere ranges.sharedRange
  have others : otherVariables part =
      ((part.filter fun entry => entry.1 ≠ publicVariable).filter
        fun entry => entry.1 ≠ internalVariable).filter fun entry => entry.1 ≠ sharedVariable := by
    rw [List.filter_filter, List.filter_filter, otherVariables]
    refine List.filter_congr ?_
    intro entry _
    simp [rangeVariables, Bool.and_comm, Bool.and_left_comm]
  rw [others]
  exact third

/-- Whatever is there after a write is a text or was there before. -/
theorem mem_setRangeVariables (distinct : (part.map Prod.fst).Nodup) {ranges : PoolRanges}
    {entry : String × Value} (member : entry ∈ setRangeVariables part ranges) :
    (∃ text, entry.2 = .string text) ∨ entry ∈ part := by
  rcases List.mem_append.mp ((setRangeVariables_perm distinct ranges).mem_iff.mp member) with
    other | given
  · exact .inr (List.mem_of_mem_filter other)
  · rcases mem_givenVariables given with ⟨name, -, text, rfl⟩
    exact .inl ⟨text, rfl⟩

/-- What is given by a write is no other variable for the next one. -/
theorem otherVariables_append_given (part : Bucket) (ranges : PoolRanges) :
    otherVariables (otherVariables part ++ givenVariables ranges) = otherVariables part := by
  have none_other : otherVariables (givenVariables ranges) = [] := by
    refine List.filter_eq_nil_iff.mpr ?_
    intro entry member
    rcases mem_givenVariables member with ⟨name, is_range, text, rfl⟩
    simpa using is_range
  have idempotent : otherVariables (otherVariables part) = otherVariables part := by
    simp [otherVariables, List.filter_filter]
  rw [otherVariables, List.filter_append]
  change otherVariables (otherVariables part) ++ otherVariables (givenVariables ranges) = _
  rw [idempotent, none_other, List.append_nil]

/-- Of two writes the second alone counts, up to the order. -/
theorem setRangeVariables_twice_perm (distinct : (part.map Prod.fst).Nodup)
    (ranges later : PoolRanges) :
    (setRangeVariables (setRangeVariables part ranges) later).Perm
      (setRangeVariables part later) := by
  have still_distinct := nodup_names_setRangeVariables distinct ranges
  have others : (otherVariables (setRangeVariables part ranges)).Perm (otherVariables part) := by
    rw [← otherVariables_append_given part ranges]
    exact (setRangeVariables_perm distinct ranges).filter _
  have before_later := (others.append_right (givenVariables later)).trans
    (setRangeVariables_perm distinct later).symm
  exact (setRangeVariables_perm still_distinct later).trans before_later

theorem setVariable_of_get? {text? : Option String} (found : part.get? name = text?.map .string) :
    setVariable part name text? = part := by
  cases text? with
  | none => exact Entries.swapErase_of_absent found
  | some text => exact Entries.insert_of_get? found

/-- A write of what is there moves nothing. -/
theorem setRangeVariables_idem (distinct : (part.map Prod.fst).Nodup) (ranges : PoolRanges) :
    setRangeVariables (setRangeVariables part ranges) ranges = setRangeVariables part ranges := by
  rcases get?_setRangeVariables distinct ranges with ⟨publicText, internalText, sharedText⟩
  rw [setRangeVariables, setVariable_of_get? publicText, setVariable_of_get? internalText,
    setVariable_of_get? sharedText]

end

/-! ## Buckets after a write -/

/-- Whether two buckets are the same up to the order of the add-on variables. -/
def SameUpToOrder (first second : Bucket) : Prop :=
  List.Forall₂ (fun entry other => entry = other ∨
    ∃ part others, entry = (addonsSectionName, .object part) ∧
      other = (addonsSectionName, .object others) ∧ part.Perm others) first second

theorem sameUpToOrder_insert (bucket : Bucket) {part others : Bucket}
    (reordered : part.Perm others) :
    SameUpToOrder (bucket.insert addonsSectionName (.object part))
      (bucket.insert addonsSectionName (.object others)) := by
  induction bucket with
  | nil => exact .cons (.inr ⟨part, others, rfl, rfl, reordered⟩) .nil
  | cons entry bucket induction_hypothesis =>
      rcases entry with ⟨name, value⟩
      by_cases same : name = addonsSectionName
      · rw [Entries.insert, Entries.insert, if_pos same, if_pos same, same]
        exact .cons (.inr ⟨part, others, rfl, rfl, reordered⟩)
          (List.forall₂_same.mpr fun _ _ => .inl rfl)
      · rw [Entries.insert, Entries.insert, if_neg same, if_neg same]
        exact .cons (.inl rfl) induction_hypothesis

theorem setPoolRanges_twice (bucket : Bucket) (ranges later : PoolRanges) :
    setPoolRanges (setPoolRanges bucket ranges) later =
      bucket.insert addonsSectionName
        (.object (setRangeVariables (setRangeVariables (addonsVariables bucket) ranges)
          later)) := by
  rw [setPoolRanges, addonsVariables_setPoolRanges, setPoolRanges, Entries.insert_insert]

/-- What a write of ranges does to a bucket, and what another write does after it. -/
structure UpdatesRanges (bucket : Bucket) (ranges later : PoolRanges) : Prop where
  read_again : poolRanges (setPoolRanges bucket ranges) = .ok ranges
  /-- Every other entry is where it was, and no other one is added. -/
  keeps_entries : ∀ (index : Nat) (entry : String × Value), entry.1 ≠ addonsSectionName →
    ((setPoolRanges bucket ranges)[index]? = some entry ↔ bucket[index]? = some entry)
  /-- A section has its other variables as they were, and the ranges that are given. -/
  keeps_variables : ∀ part, bucket.get? addonsSectionName = some (.object part) → ∃ after,
    (setPoolRanges bucket ranges).get? addonsSectionName = some (.object after) ∧
      (after.map Prod.fst).Nodup ∧ after.Perm (otherVariables part ++ givenVariables ranges)
  idempotent : setPoolRanges (setPoolRanges bucket ranges) ranges = setPoolRanges bucket ranges
  overwrites : SameUpToOrder (setPoolRanges (setPoolRanges bucket ranges) later)
    (setPoolRanges bucket later)

/--
Whatever a bucket has in its add-ons section, and for all ranges: the ranges that are written
are read again, and nothing else is lost, changed or added.  Writing the same ranges again
moves nothing, and writing others gives what writing these alone would give, up to the order
of the variables.
-/
theorem setPoolRanges_updates_ranges (bucket : Bucket)
    (distinct : ((addonsVariables bucket).map Prod.fst).Nodup) (ranges later : PoolRanges) :
    UpdatesRanges bucket ranges later where
  read_again := poolRanges_setPoolRanges distinct ranges
  keeps_entries index _ different := Entries.getElem?_insert_of_ne bucket _ index different
  keeps_variables := by
    intro part found
    have is_section : addonsVariables bucket = part := by
      rw [addonsVariables, found]
    rw [is_section] at distinct
    refine ⟨setRangeVariables part ranges, ?_, nodup_names_setRangeVariables distinct ranges,
      setRangeVariables_perm distinct ranges⟩
    rw [setPoolRanges, is_section, Entries.get?_insert_self]
  idempotent := by
    rw [setPoolRanges_twice, setRangeVariables_idem distinct]
    rfl
  overwrites := by
    rw [setPoolRanges_twice]
    exact sameUpToOrder_insert bucket (setRangeVariables_twice_perm distinct ranges later)

/-- Add-ons with a range that is no text, so that the ranges cannot be read from them. -/
def unreadableAddons : Bucket :=
  [("region", .nat 3),
    (addonsSectionName, .object [(internalVariable, .bool true), ("metallb", .string "on"),
      (sharedVariable, .string "10.0.0.0/24"), ("dns", .null)]),
    ("zones", .array [])]

/-- Ranges that cannot be read are replaced by a blank one, and then by another. -/
theorem setPoolRanges_updates_unreadable_ranges :
    (poolRanges unreadableAddons).toOption = none ∧
    ((addonsVariables unreadableAddons).map Prod.fst).Nodup ∧
    UpdatesRanges unreadableAddons ⟨some " ", none, none⟩ ⟨none, none, some "10.1.0.0/24"⟩ := by
  have distinct : ((addonsVariables unreadableAddons).map Prod.fst).Nodup := by decide
  exact ⟨rfl, distinct, setPoolRanges_updates_ranges unreadableAddons distinct
    ⟨some " ", none, none⟩ ⟨none, none, some "10.1.0.0/24"⟩⟩

end NetworkIsolation.Configuration
