/-!
# Sorted lists of names

Names are ordered by their characters, which is the order of their bytes.  A
sorted list holds each name once.
-/

namespace NetworkIsolation.Text

/-- Put a name into its place in a sorted list. -/
def insertSorted (name : String) : List String → List String
  | [] => [name]
  | first :: rest =>
    if name < first then name :: first :: rest
    else if name = first then first :: rest
    else first :: insertSorted name rest

/-- The names in order, each once. -/
def sorted (names : List String) : List String :=
  names.foldr insertSorted []

theorem mem_insertSorted {name other : String} {names : List String} :
    other ∈ insertSorted name names ↔ other = name ∨ other ∈ names := by
  induction names with
  | nil => simp [insertSorted]
  | cons first rest induction_hypothesis =>
    simp only [insertSorted]
    split
    · simp
    · split
      · rename_i same
        simp [same]
      · simp [induction_hypothesis]
        grind

@[simp]
theorem mem_sorted {name : String} {names : List String} : name ∈ sorted names ↔ name ∈ names := by
  induction names with
  | nil => simp [sorted]
  | cons first rest induction_hypothesis =>
    have step : sorted (first :: rest) = insertSorted first (sorted rest) := rfl
    simp [step, mem_insertSorted, induction_hypothesis]

end NetworkIsolation.Text
