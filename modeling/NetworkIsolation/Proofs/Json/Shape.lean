import NetworkIsolation.Json.Value
import NetworkIsolation.Proofs.Json.Doubles

/-!
# The shape of a value

Whether a value is read back from its text depends on three things: how many
brackets are open at its deepest place, whether the names of each object are
distinct, and whether its numbers are read back.

`Value.reread` is what is read from the text of a value when a given number of
brackets may be open.  It is the value itself exactly if there is room for its
brackets and all its numbers are read back.
-/

namespace NetworkIsolation.Json

namespace Value

mutual

/-- How many brackets are open at the deepest place. -/
def depth : Value → Nat
  | .array items => depthOfItems items + 1
  | .object entries => depthOfEntries entries + 1
  | _ => 0

def depthOfItems : List Value → Nat
  | [] => 0
  | item :: items => max item.depth (depthOfItems items)

def depthOfEntries : List (String × Value) → Nat
  | [] => 0
  | (_, value) :: entries => max value.depth (depthOfEntries entries)

end

mutual

/-- All numbers, from left to right. -/
def numbers : Value → List Number
  | .number kept => [kept]
  | .array items => numbersOfItems items
  | .object entries => numbersOfEntries entries
  | _ => []

def numbersOfItems : List Value → List Number
  | [] => []
  | item :: items => item.numbers ++ numbersOfItems items

def numbersOfEntries : List (String × Value) → List Number
  | [] => []
  | (_, value) :: entries => value.numbers ++ numbersOfEntries entries

end

mutual

/-- Whether no object has two entries of one name. -/
def HasDistinctNames : Value → Prop
  | .array items => ItemsHaveDistinctNames items
  | .object entries => (entries.map Prod.fst).Nodup ∧ EntriesHaveDistinctNames entries
  | _ => True

def ItemsHaveDistinctNames : List Value → Prop
  | [] => True
  | item :: items => item.HasDistinctNames ∧ ItemsHaveDistinctNames items

def EntriesHaveDistinctNames : List (String × Value) → Prop
  | [] => True
  | (_, value) :: entries => value.HasDistinctNames ∧ EntriesHaveDistinctNames entries

end

theorem HasDistinctNames.item {items : List Value} (distinct : (Value.array items).HasDistinctNames)
    {item : Value} (member : item ∈ items) : item.HasDistinctNames := by
  induction items with
  | nil => cases member
  | cons first items induction_hypothesis =>
      rcases List.mem_cons.mp member with rfl | later
      · exact distinct.1
      · exact induction_hypothesis distinct.2 later

theorem HasDistinctNames.entry {entries : List (String × Value)}
    (distinct : (Value.object entries).HasDistinctNames) {entry : String × Value}
    (member : entry ∈ entries) : entry.2.HasDistinctNames := by
  have each := distinct.2
  clear distinct
  induction entries with
  | nil => cases member
  | cons first entries induction_hypothesis =>
      rcases List.mem_cons.mp member with rfl | later
      · exact each.1
      · exact induction_hypothesis later each.2

theorem hasDistinctNames_object {entries : List (String × Value)}
    (distinct : (entries.map Prod.fst).Nodup)
    (each : ∀ entry ∈ entries, entry.2.HasDistinctNames) :
    (Value.object entries).HasDistinctNames := by
  refine ⟨distinct, ?_⟩
  clear distinct
  induction entries with
  | nil => exact trivial
  | cons entry entries induction_hypothesis =>
      rw [List.forall_mem_cons] at each
      exact ⟨each.1, induction_hypothesis each.2⟩

/-- An array of strings nests no further and holds no names and no numbers. -/
theorem strings_flat (texts : List String) :
    (strings texts).HasDistinctNames ∧ (strings texts).depth = 1 ∧
      (strings texts).numbers = [] := by
  induction texts with
  | nil => exact ⟨trivial, rfl, rfl⟩
  | cons text texts induction_hypothesis =>
      rcases induction_hypothesis with ⟨distinct, depth, numbers⟩
      refine ⟨⟨trivial, distinct⟩, ?_, numbers⟩
      simpa [strings, Value.depth, depthOfItems] using depth

mutual

/-- What is read from the text of a value when the given number of brackets may be open. -/
def reread : Nat → Value → Option Value
  | _, .null => some .null
  | _, .bool value => some (.bool value)
  | _, .number kept => kept.reread.map .number
  | _, .string value => some (.string value)
  | 0, .array _ => none
  | room + 1, .array items => (rereadItems room items).map .array
  | 0, .object _ => none
  | room + 1, .object entries => (rereadEntries room entries).map .object

def rereadItems : Nat → List Value → Option (List Value)
  | _, [] => some []
  | room, item :: items =>
    (reread room item).bind fun first => (rereadItems room items).map (first :: ·)

def rereadEntries : Nat → List (String × Value) → Option (List (String × Value))
  | _, [] => some []
  | room, (name, value) :: entries =>
    (reread room value).bind fun first =>
      (rereadEntries room entries).map ((name, first) :: ·)

end

mutual

/-- A value is read back if there is room for its brackets and its numbers are read back. -/
theorem reread_eq_self (room : Nat) : ∀ value : Value,
    value.reread room = some value ↔
      value.depth ≤ room ∧ ∀ number ∈ value.numbers, number.reread = some number
  | .null => by simp [reread, depth, numbers]
  | .bool _ => by simp [reread, depth, numbers]
  | .number kept => by simp [reread, depth, numbers]
  | .string _ => by simp [reread, depth, numbers]
  | .array items => by
      cases room with
      | zero => simp [reread, depth]
      | succ room =>
          have inner := rereadItems_eq_self room items
          simp only [reread, depth, numbers, Nat.add_le_add_iff_right, ← inner]
          simp
  | .object entries => by
      cases room with
      | zero => simp [reread, depth]
      | succ room =>
          have inner := rereadEntries_eq_self room entries
          simp only [reread, depth, numbers, Nat.add_le_add_iff_right, ← inner]
          simp

theorem rereadItems_eq_self (room : Nat) : ∀ items : List Value,
    rereadItems room items = some items ↔
      depthOfItems items ≤ room ∧
        ∀ number ∈ numbersOfItems items, number.reread = some number
  | [] => by simp [rereadItems, depthOfItems, numbersOfItems]
  | item :: items => by
      have first := reread_eq_self room item
      have rest := rereadItems_eq_self room items
      simp only [rereadItems, depthOfItems, numbersOfItems, Option.bind_eq_some_iff,
        Option.map_eq_some_iff, List.cons.injEq, Nat.max_le, List.mem_append]
      constructor
      · rintro ⟨_, first_read, _, rest_read, rfl, rfl⟩
        have first_fits := first.mp first_read
        have rest_fits := rest.mp rest_read
        refine ⟨⟨first_fits.1, rest_fits.1⟩, ?_⟩
        rintro number (member | member)
        · exact first_fits.2 number member
        · exact rest_fits.2 number member
      · rintro ⟨⟨first_fits, rest_fits⟩, numbers_read⟩
        refine ⟨item, first.mpr ⟨first_fits, ?_⟩, items, rest.mpr ⟨rest_fits, ?_⟩, rfl, rfl⟩
        · intro number member
          exact numbers_read number (.inl member)
        · intro number member
          exact numbers_read number (.inr member)

theorem rereadEntries_eq_self (room : Nat) : ∀ entries : List (String × Value),
    rereadEntries room entries = some entries ↔
      depthOfEntries entries ≤ room ∧
        ∀ number ∈ numbersOfEntries entries, number.reread = some number
  | [] => by simp [rereadEntries, depthOfEntries, numbersOfEntries]
  | (name, value) :: entries => by
      have first := reread_eq_self room value
      have rest := rereadEntries_eq_self room entries
      simp only [rereadEntries, depthOfEntries, numbersOfEntries, Option.bind_eq_some_iff,
        Option.map_eq_some_iff, List.cons.injEq, Prod.mk.injEq, true_and, Nat.max_le,
        List.mem_append]
      constructor
      · rintro ⟨_, first_read, _, rest_read, rfl, rfl⟩
        have first_fits := first.mp first_read
        have rest_fits := rest.mp rest_read
        refine ⟨⟨first_fits.1, rest_fits.1⟩, ?_⟩
        rintro number (member | member)
        · exact first_fits.2 number member
        · exact rest_fits.2 number member
      · rintro ⟨⟨first_fits, rest_fits⟩, numbers_read⟩
        refine ⟨value, first.mpr ⟨first_fits, ?_⟩, entries, rest.mpr ⟨rest_fits, ?_⟩, rfl, rfl⟩
        · intro number member
          exact numbers_read number (.inl member)
        · intro number member
          exact numbers_read number (.inr member)

end

/-- Entries are read back if each of their values is. -/
theorem rereadEntries_eq_self_iff {room : Nat} {entries : List (String × Value)} :
    rereadEntries room entries = some entries ↔
      ∀ entry ∈ entries, entry.2.reread room = some entry.2 := by
  induction entries with
  | nil => simp [rereadEntries]
  | cons entry entries induction_hypothesis =>
      rcases entry with ⟨name, value⟩
      rw [List.forall_mem_cons, ← induction_hypothesis]
      simp [rereadEntries, Option.bind_eq_some_iff, and_comm]

end Value

end NetworkIsolation.Json
