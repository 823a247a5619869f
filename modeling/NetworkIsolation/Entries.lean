/-!
# Entries in insertion order

An object keeps its entries in the order in which their names first appeared.
Writing to a name that is there changes the value in its place, a new name
goes to the end, and removing an entry moves the last one into the gap.
-/

namespace NetworkIsolation

/-- Named values in insertion order. -/
abbrev Entries (α : Type) := List (String × α)

namespace Entries

variable {α : Type}

/-- The names in order. -/
def names (entries : Entries α) : List String :=
  entries.map Prod.fst

/-- The value under a name. -/
def get? : Entries α → String → Option α
  | [], _ => none
  | (name, value) :: rest, wanted => if name = wanted then some value else get? rest wanted

/-- Whether there is an entry of that name. -/
def has (entries : Entries α) (wanted : String) : Bool :=
  (entries.get? wanted).isSome

/-- Write a value under a name, in place or at the end. -/
def insert : Entries α → String → α → Entries α
  | [], wanted, value => [(wanted, value)]
  | (name, old) :: rest, wanted, value =>
    if name = wanted then (name, value) :: rest else (name, old) :: insert rest wanted value

/-- Remove the entry of a name and move the last entry into its place. -/
def swapErase : Entries α → String → Entries α
  | [], _ => []
  | (name, value) :: rest, wanted =>
    if name = wanted then
      match rest.getLast? with
      | none => []
      | some last => last :: rest.dropLast
    else
      (name, value) :: swapErase rest wanted

/-- The entries that are found under their names: of several under one name the first. -/
def firsts : Entries α → Entries α
  | [] => []
  | (name, value) :: rest => (name, value) :: (firsts rest).filter fun entry => entry.1 ≠ name

/-- The entries with each name at its first position and with its last value. -/
def ofList (entries : List (String × α)) : Entries α :=
  entries.foldl (fun kept entry => insert kept entry.1 entry.2) []

@[simp]
theorem get?_nil (wanted : String) : get? ([] : Entries α) wanted = none := rfl

theorem get?_eq_none {entries : Entries α} {wanted : String}
    (absent : wanted ∉ entries.map Prod.fst) : entries.get? wanted = none := by
  induction entries with
  | nil => rfl
  | cons entry rest induction_hypothesis =>
    rcases entry with ⟨name, value⟩
    rw [List.map_cons, List.mem_cons, not_or] at absent
    rw [get?, if_neg (Ne.symm absent.1), induction_hypothesis absent.2]

theorem has_iff {entries : Entries α} {wanted : String} :
    entries.has wanted = true ↔ wanted ∈ entries.names := by
  induction entries with
  | nil => simp [has, names]
  | cons entry rest induction_hypothesis =>
    rcases entry with ⟨name, value⟩
    by_cases same : name = wanted
    · simp [has, names, get?, same]
    · have different : wanted ≠ name := Ne.symm same
      simpa [has, names, get?, same, different] using induction_hypothesis

theorem get?_insert_self (entries : Entries α) (wanted : String) (value : α) :
    (entries.insert wanted value).get? wanted = some value := by
  induction entries with
  | nil => simp [insert, get?]
  | cons entry rest induction_hypothesis =>
    obtain ⟨name, old⟩ := entry
    by_cases same : name = wanted
    · simp [insert, get?, same]
    · simp [insert, get?, same, induction_hypothesis]

theorem get?_insert_of_ne (entries : Entries α) {wanted other : String} (value : α)
    (different : wanted ≠ other) :
    (entries.insert wanted value).get? other = entries.get? other := by
  induction entries with
  | nil => simp [insert, get?, different]
  | cons entry rest induction_hypothesis =>
    obtain ⟨name, old⟩ := entry
    by_cases same : name = wanted
    · subst same
      simp [insert, get?, different]
    · simp [insert, get?, same, induction_hypothesis]

/-- Writing the value that is there changes nothing. -/
theorem insert_of_get? {entries : Entries α} {wanted : String} {value : α}
    (found : entries.get? wanted = some value) : entries.insert wanted value = entries := by
  induction entries with
  | nil => cases found
  | cons entry rest induction_hypothesis =>
    rcases entry with ⟨name, old⟩
    by_cases same : name = wanted
    · rw [get?, if_pos same] at found
      rw [insert, if_pos same, Option.some.inj found]
    · rw [get?, if_neg same] at found
      rw [insert, if_neg same, induction_hypothesis found]

@[simp]
theorem insert_insert (entries : Entries α) (name : String) (first second : α) :
    (entries.insert name first).insert name second = entries.insert name second := by
  induction entries with
  | nil => simp [insert]
  | cons entry rest induction_hypothesis =>
    rcases entry with ⟨other, old⟩
    by_cases same : other = name
    · simp [insert, same]
    · simp [insert, same, induction_hypothesis]

/-- What is written under a new name is taken away with the name. -/
theorem filter_insert_of_absent {entries : Entries α} {name : String}
    (absent : name ∉ entries.map Prod.fst) (value : α) :
    (entries.insert name value).filter (fun entry => entry.1 ≠ name) = entries := by
  induction entries with
  | nil => simp [insert]
  | cons entry rest induction_hypothesis =>
    rcases entry with ⟨other, old⟩
    rw [List.map_cons, List.mem_cons, not_or] at absent
    have different : other ≠ name := Ne.symm absent.1
    rw [insert, if_neg different, List.filter_cons_of_pos (by simpa using different),
      induction_hypothesis absent.2]

/-- Entries of other names are neither moved nor changed by a write, and none is added. -/
theorem getElem?_insert_of_ne (entries : Entries α) {name : String} (value : α) (index : Nat)
    {entry : String × α} (different : entry.1 ≠ name) :
    (entries.insert name value)[index]? = some entry ↔ entries[index]? = some entry := by
  have not_written : ∀ value : α, some (name, value) ≠ some entry := by
    rintro value written
    cases written
    exact different rfl
  induction entries generalizing index with
  | nil =>
      cases index with
      | zero => simpa [insert] using not_written value
      | succ index => simp [insert]
  | cons first rest induction_hypothesis =>
      rcases first with ⟨other, old⟩
      by_cases same : other = name
      · subst same
        cases index with
        | zero => simpa [insert] using iff_of_false (not_written value) (not_written old)
        | succ index => simp [insert]
      · cases index with
        | zero => simp [insert, same]
        | succ index => simpa [insert, same] using induction_hypothesis index

theorem swapErase_of_absent {entries : Entries α} {name : String}
    (absent : entries.get? name = none) : entries.swapErase name = entries := by
  induction entries with
  | nil => rfl
  | cons entry rest induction_hypothesis =>
    rcases entry with ⟨other, old⟩
    by_cases same : other = name
    · rw [get?, if_pos same] at absent
      cases absent
    · rw [get?, if_neg same] at absent
      rw [swapErase, if_neg same, induction_hypothesis absent]

theorem names_insert (entries : Entries α) (name : String) (value : α) :
    (entries.insert name value).map Prod.fst =
      if name ∈ entries.map Prod.fst then entries.map Prod.fst
      else entries.map Prod.fst ++ [name] := by
  induction entries with
  | nil => rfl
  | cons entry entries induction_hypothesis =>
      rcases entry with ⟨other, old⟩
      by_cases same : other = name
      · simp [insert, same]
      · have different : name ≠ other := Ne.symm same
        rw [insert, if_neg same, List.map_cons, induction_hypothesis]
        by_cases member : name ∈ entries.map Prod.fst
        · simp [member]
        · simp [member, different]

theorem nodup_names_insert {entries : Entries α} (distinct : (entries.map Prod.fst).Nodup)
    (name : String) (value : α) : ((entries.insert name value).map Prod.fst).Nodup := by
  rw [names_insert]
  split
  · exact distinct
  · rename_i new
    exact List.nodup_append.mpr ⟨distinct, by simp, by
      intro other member _ single
      rw [List.mem_singleton.mp single]
      rintro rfl
      exact new member⟩

theorem mem_insert {entries : Entries α} {name : String} {value : α}
    {entry : String × α} (member : entry ∈ entries.insert name value) :
    entry.2 = value ∨ entry ∈ entries := by
  induction entries with
  | nil =>
      left
      rw [List.mem_singleton.mp member]
  | cons head entries induction_hypothesis =>
      rcases head with ⟨other, old⟩
      by_cases same : other = name
      · rw [insert, if_pos same] at member
        rcases List.mem_cons.mp member with rfl | later
        · exact .inl rfl
        · exact .inr (List.mem_cons_of_mem _ later)
      · rw [insert, if_neg same] at member
        rcases List.mem_cons.mp member with rfl | later
        · exact .inr List.mem_cons_self
        · rcases induction_hypothesis later with written | kept
          · exact .inl written
          · exact .inr (List.mem_cons_of_mem _ kept)

/-! ## Entries with distinct names -/

theorem get?_eq_some {entries : Entries α} (distinct : (entries.map Prod.fst).Nodup)
    {name : String} {value : α} : entries.get? name = some value ↔ (name, value) ∈ entries := by
  induction entries with
  | nil => simp
  | cons entry entries induction_hypothesis =>
      rcases entry with ⟨other, old⟩
      rw [List.map_cons, List.nodup_cons] at distinct
      by_cases same : other = name
      · subst same
        have elsewhere : (other, value) ∉ entries := fun member =>
          distinct.1 (List.mem_map.mpr ⟨_, member, rfl⟩)
        rw [get?, if_pos rfl]
        simp [elsewhere, eq_comm]
      · have different : name ≠ other := Ne.symm same
        rw [get?, if_neg same, induction_hypothesis distinct.2]
        simp [different]

/-- Behind an entry there is none of its name. -/
theorem filter_ne_of_distinct {name : String} {value : α} {entries : Entries α}
    (distinct : (((name, value) :: entries).map Prod.fst).Nodup) :
    entries.filter (fun entry => entry.1 ≠ name) = entries := by
  refine List.filter_eq_self.mpr ?_
  intro entry member
  have later : entry.1 ∈ entries.map Prod.fst := List.mem_map_of_mem member
  have different : entry.1 ≠ name := by
    intro same
    rw [same] at later
    exact (List.nodup_cons.mp distinct).1 later
  simpa using different

theorem get?_filter_of_ne (entries : Entries α) {name other : String} (different : name ≠ other) :
    Entries.get? (entries.filter fun entry => entry.1 ≠ name) other = entries.get? other := by
  induction entries with
  | nil => rfl
  | cons entry entries induction_hypothesis =>
      rcases entry with ⟨first, value⟩
      by_cases taken : first = name
      · rw [List.filter_cons_of_neg (by simpa using taken), induction_hypothesis, get?,
          if_neg (taken ▸ different)]
      · rw [List.filter_cons_of_pos (by simpa using taken), get?, get?, induction_hypothesis]

theorem nodup_firsts (entries : Entries α) : (entries.firsts.map Prod.fst).Nodup := by
  induction entries with
  | nil => exact List.nodup_nil
  | cons entry entries induction_hypothesis =>
      rcases entry with ⟨name, value⟩
      rw [firsts, List.map_cons, List.nodup_cons]
      constructor
      · simp
      · exact induction_hypothesis.sublist (List.filter_sublist.map Prod.fst)

theorem get?_firsts (entries : Entries α) (name : String) :
    entries.firsts.get? name = entries.get? name := by
  induction entries with
  | nil => rfl
  | cons entry entries induction_hypothesis =>
      rcases entry with ⟨first, value⟩
      rw [firsts, get?, get?]
      split
      · rfl
      · rename_i different
        rw [get?_filter_of_ne _ different, induction_hypothesis]

/-- The first entries are those that are found. -/
theorem mem_firsts {entries : Entries α} {name : String} {value : α} :
    (name, value) ∈ entries.firsts ↔ entries.get? name = some value := by
  rw [← get?_eq_some (nodup_firsts entries), get?_firsts]

/-- Up to its place, what is written goes behind the entries of other names. -/
theorem insert_perm {entries : Entries α} (distinct : (entries.map Prod.fst).Nodup)
    (name : String) (value : α) :
    (entries.insert name value).Perm
      (entries.filter (fun entry => entry.1 ≠ name) ++ [(name, value)]) := by
  induction entries with
  | nil => exact .refl _
  | cons entry entries induction_hypothesis =>
      rcases entry with ⟨other, old⟩
      by_cases same : other = name
      · subst same
        rw [insert, if_pos rfl, List.filter_cons_of_neg (by simp), filter_ne_of_distinct distinct]
        exact (List.perm_append_singleton _ entries).symm
      · rw [insert, if_neg same, List.filter_cons_of_pos (by simpa using same), List.cons_append]
        exact (induction_hypothesis (List.nodup_cons.mp distinct).2).cons _

/-- Removing an entry keeps the others, though not in their order. -/
theorem swapErase_perm {entries : Entries α} (distinct : (entries.map Prod.fst).Nodup)
    (name : String) :
    (entries.swapErase name).Perm (entries.filter fun entry => entry.1 ≠ name) := by
  induction entries with
  | nil => exact .nil
  | cons entry entries induction_hypothesis =>
      rcases entry with ⟨other, old⟩
      by_cases same : other = name
      · subst same
        rw [swapErase, if_pos rfl, List.filter_cons_of_neg (by simp),
          filter_ne_of_distinct distinct]
        cases last : entries.getLast? with
        | none => rw [List.getLast?_eq_none_iff.mp last]
        | some entry =>
            rcases List.getLast?_eq_some_iff.mp last with ⟨others, rfl⟩
            rw [List.dropLast_concat]
            exact (List.perm_append_singleton entry others).symm
      · rw [swapErase, if_neg same, List.filter_cons_of_pos (by simpa using same)]
        exact (induction_hypothesis (List.nodup_cons.mp distinct).2).cons _

theorem nodup_names_swapErase {entries : Entries α} (distinct : (entries.map Prod.fst).Nodup)
    (name : String) : ((entries.swapErase name).map Prod.fst).Nodup := by
  rw [((swapErase_perm distinct name).map Prod.fst).nodup_iff]
  exact distinct.sublist (List.filter_sublist.map Prod.fst)

theorem mem_swapErase {entries : Entries α} (distinct : (entries.map Prod.fst).Nodup)
    {name : String} {entry : String × α} :
    entry ∈ entries.swapErase name ↔ entry ∈ entries ∧ entry.1 ≠ name := by
  rw [(swapErase_perm distinct name).mem_iff, List.mem_filter, decide_eq_true_eq]

theorem get?_swapErase_self {entries : Entries α} (distinct : (entries.map Prod.fst).Nodup)
    (name : String) : (entries.swapErase name).get? name = none := by
  apply get?_eq_none
  intro member
  rcases List.mem_map.mp member with ⟨entry, kept, same⟩
  exact ((mem_swapErase distinct).mp kept).2 same

theorem get?_swapErase_of_ne {entries : Entries α} (distinct : (entries.map Prod.fst).Nodup)
    {name other : String} (different : name ≠ other) :
    (entries.swapErase name).get? other = entries.get? other := by
  apply Option.ext
  intro value
  rw [get?_eq_some (nodup_names_swapErase distinct name), get?_eq_some distinct,
    mem_swapErase distinct]
  exact and_iff_left (Ne.symm different)

end Entries

end NetworkIsolation
