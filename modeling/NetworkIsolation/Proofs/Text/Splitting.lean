import Mathlib.Data.List.Basic
import NetworkIsolation.Text.Blank

/-!
# Splitting a text

Splitting drops the separators and nothing else, so no piece has one.  Where a separator
stands between two texts, they are split on their own; everything else that is known of the
pieces of a text follows from this and from the text without a separator, which is one piece.
-/

namespace NetworkIsolation.Text

variable {separator character : Char}

theorem splitAt_append (separator : Char) (first second : List Char) :
    splitAt separator (first ++ separator :: second) =
      splitAt separator first ++ splitAt separator second := by
  induction first with
  | nil => simp [splitAt]
  | cons character rest induction_hypothesis =>
      rw [List.cons_append, splitAt, splitAt, induction_hypothesis]
      by_cases same : character = separator
      · rw [if_pos same, if_pos same]
        rfl
      · rw [if_neg same, if_neg same]
        cases pieces : splitAt separator rest with
        | nil => exact absurd pieces (splitAt_ne_nil separator rest)
        | cons piece pieces => rfl

theorem splitAt_of_not_mem {characters : List Char} (absent : separator ∉ characters) :
    splitAt separator characters = [characters] := by
  induction characters with
  | nil => rfl
  | cons character rest induction_hypothesis =>
      rw [List.mem_cons, not_or] at absent
      rw [splitAt, if_neg (Ne.symm absent.1), induction_hypothesis absent.2]

/-- Splitting loses the separators, and nothing else. -/
theorem exists_mem_splitAt_iff (characters : List Char) :
    (∃ piece ∈ splitAt separator characters, character ∈ piece) ↔
      character ∈ characters ∧ character ≠ separator := by
  induction characters with
  | nil => simp
  | cons first rest induction_hypothesis =>
      rw [splitAt]
      split
      · rename_i same
        subst same
        rw [List.exists_mem_cons_iff, induction_hypothesis, List.mem_cons]
        grind
      · rename_i different
        split
        · exact absurd ‹_› (splitAt_ne_nil separator rest)
        · rename_i piece pieces split_rest
          rw [split_rest, List.exists_mem_cons_iff] at induction_hypothesis
          rw [List.exists_mem_cons_iff, List.mem_cons, List.mem_cons, or_assoc,
            induction_hypothesis]
          grind

theorem not_mem_splitAt {characters piece : List Char}
    (among : piece ∈ splitAt separator characters) : separator ∉ piece := by
  intro inside
  exact ((exists_mem_splitAt_iff characters).mp ⟨piece, among, inside⟩).2 rfl

end NetworkIsolation.Text
