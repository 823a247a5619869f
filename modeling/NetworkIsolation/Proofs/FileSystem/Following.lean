import NetworkIsolation.Proofs.FileSystem.Nodes
import NetworkIsolation.Proofs.Results

/-!
# Where paths lead

Following a path passes through directories only.  The pieces that lead from
one directory to another do so in every tree that keeps its directories, even
where they step back out, and what follows them in a path is then followed from
the second directory.
-/

namespace NetworkIsolation.FileSystem

namespace Node

open Files (follow maxNameBytes)

/-- Whether a piece of a path may name an entry. -/
structure IsName (piece : String) : Prop where
  own : isNeutral piece = false
  inward : piece ≠ ".."
  short : piece.utf8ByteSize ≤ maxNameBytes

/-- Pieces of a path that lead from one directory of a tree to another. -/
inductive Leads (tree : Node) : List String → List String → List String → Prop
  | here {names : List String} (directory : tree.HasDirectory names) : Leads tree names [] names
  | stay {names final pieces : List String} {piece : String} (neutral : isNeutral piece = true)
      (further : Leads tree names pieces final) : Leads tree names (piece :: pieces) final
  | up {names final pieces : List String} (directory : tree.HasDirectory names)
      (further : Leads tree names.dropLast pieces final) : Leads tree names (".." :: pieces) final
  | down {names final pieces : List String} {piece : String} (is_name : IsName piece)
      (further : Leads tree (names ++ [piece]) pieces final) :
      Leads tree names (piece :: pieces) final

namespace Leads

variable {tree : Node} {names middle final pieces : List String}

theorem hasDirectory_start (leads : tree.Leads names pieces final) :
    tree.HasDirectory names := by
  induction leads with
  | here directory => exact directory
  | stay neutral further induction_hypothesis => exact induction_hypothesis
  | up directory further induction_hypothesis => exact directory
  | down is_name further induction_hypothesis => exact hasDirectory_around induction_hypothesis

theorem hasDirectory_final (leads : tree.Leads names pieces final) :
    tree.HasDirectory final := by
  induction leads with
  | here directory => exact directory
  | stay neutral further induction_hypothesis => exact induction_hypothesis
  | up directory further induction_hypothesis => exact induction_hypothesis
  | down is_name further induction_hypothesis => exact induction_hypothesis

/-- The way stays the same as long as the directories stay. -/
theorem keeps {changed : Node} (leads : tree.Leads names pieces final)
    (keeps : tree.Keeps changed) : changed.Leads names pieces final := by
  induction leads with
  | here directory => exact .here (keeps _ directory)
  | stay neutral further induction_hypothesis => exact .stay neutral induction_hypothesis
  | up directory further induction_hypothesis => exact .up (keeps _ directory) induction_hypothesis
  | down is_name further induction_hypothesis => exact .down is_name induction_hypothesis

/-- A neutral piece leads nowhere else. -/
theorem of_neutral {piece : String} (leads : tree.Leads names (piece :: pieces) final)
    (neutral : isNeutral piece = true) : tree.Leads names pieces final := by
  cases leads with
  | stay _ further => exact further
  | up directory further => contradiction
  | down is_name further =>
      rw [is_name.own] at neutral
      cases neutral

theorem append {others : List String} (leads : tree.Leads names pieces middle)
    (further : tree.Leads middle others final) : tree.Leads names (pieces ++ others) final := by
  induction leads with
  | here directory => exact further
  | stay neutral onward induction_hypothesis => exact .stay neutral (induction_hypothesis further)
  | up directory onward induction_hypothesis => exact .up directory (induction_hypothesis further)
  | down is_name onward induction_hypothesis => exact .down is_name (induction_hypothesis further)

theorem of_append {others : List String} (leads : tree.Leads names (pieces ++ others) final) :
    ∃ middle, tree.Leads names pieces middle ∧ tree.Leads middle others final := by
  induction pieces generalizing names with
  | nil => exact ⟨names, .here leads.hasDirectory_start, leads⟩
  | cons piece pieces induction_hypothesis =>
      cases leads with
      | stay neutral further =>
          rcases induction_hypothesis further with ⟨middle, first, second⟩
          exact ⟨middle, .stay neutral first, second⟩
      | up directory further =>
          rcases induction_hypothesis further with ⟨middle, first, second⟩
          exact ⟨middle, .up directory first, second⟩
      | down is_name further =>
          rcases induction_hypothesis further with ⟨middle, first, second⟩
          exact ⟨middle, .down is_name first, second⟩

end Leads

/-! ## Following pieces -/

/-- The names that were passed. -/
def passed (above : List (String × Node)) : List String :=
  above.reverse.map Prod.fst

@[simp]
theorem passed_cons (entry : String × Node) (above : List (String × Node)) :
    passed (entry :: above) = passed above ++ [entry.1] := by
  simp [passed]

/-- The directories that were passed are those of the tree. -/
inductive Trail (tree : Node) : List (String × Node) → Node → Prop
  | start : Trail tree [] tree
  | down {above entries : List (String × Node)} {name : String} {node : Node}
      (outside : Trail tree above (.directory entries))
      (found : Entries.get? entries name = some node) :
      Trail tree ((name, .directory entries) :: above) node

variable {tree node : Node} {above : List (String × Node)} {names pieces : List String}

theorem Trail.descend (trail : tree.Trail above node) :
    tree.descend (passed above) = some node := by
  induction trail with
  | start => rfl
  | down outside found induction_hypothesis =>
      rw [passed_cons, descend_child induction_hypothesis]
      exact found

theorem Trail.directory (trail : tree.Trail above node)
    (directory : tree.HasDirectory (passed above)) : ∃ entries, node = .directory entries := by
  rcases directory with ⟨entries, found⟩
  rw [trail.descend] at found
  cases found
  exact ⟨entries, rfl⟩

theorem follow_cons (above entries : List (String × Node)) (piece : String)
    (pieces : List String) :
    follow above (.directory entries) (piece :: pieces) =
      if isNeutral piece then follow above (.directory entries) pieces
      else if piece = ".." then
        match above with
        | [] => follow [] (.directory entries) pieces
        | (_, outer) :: above => follow above outer pieces
      else if maxNameBytes < piece.utf8ByteSize then .error .nameTooLong
      else
        match Entries.get? entries piece with
        | some inner => follow ((piece, .directory entries) :: above) inner pieces
        | none =>
          if pieces.isEmpty then .ok (passed above ++ [piece], none) else .error .notFound := by
  cases above <;> rfl

/-- What comes behind pieces that lead to a directory is followed from there. -/
theorem follow_append {final : List String} (leads : tree.Leads names pieces final)
    (trail : tree.Trail above node) (at_names : passed above = names) :
    ∃ reached entries, tree.Trail reached (.directory entries) ∧ passed reached = final ∧
      ∀ tail, follow above node (pieces ++ tail) = follow reached (.directory entries) tail := by
  induction leads generalizing above node with
  | here directory =>
      subst at_names
      rcases trail.directory directory with ⟨entries, rfl⟩
      exact ⟨above, entries, trail, rfl, fun tail => rfl⟩
  | @stay names final pieces piece neutral further induction_hypothesis =>
      subst at_names
      rcases trail.directory further.hasDirectory_start with ⟨entries, rfl⟩
      rcases induction_hypothesis trail rfl with ⟨reached, others, onward, ends, same⟩
      refine ⟨reached, others, onward, ends, ?_⟩
      intro tail
      rw [List.cons_append, follow_cons, if_pos neutral]
      exact same tail
  | @up names final pieces directory further induction_hypothesis =>
      subst at_names
      rcases trail.directory directory with ⟨entries, rfl⟩
      cases trail with
      | start =>
          rcases induction_hypothesis .start rfl with ⟨reached, others, onward, ends, same⟩
          refine ⟨reached, others, onward, ends, ?_⟩
          intro tail
          rw [List.cons_append, follow_cons, if_neg (by decide), if_pos rfl]
          exact same tail
      | @down above outer name _ outside found =>
          rcases induction_hypothesis outside (by simp) with
            ⟨reached, others, onward, ends, same⟩
          refine ⟨reached, others, onward, ends, ?_⟩
          intro tail
          rw [List.cons_append, follow_cons, if_neg (by decide), if_pos rfl]
          exact same tail
  | @down names final pieces piece is_name further induction_hypothesis =>
      subst at_names
      have around : tree.HasDirectory (passed above) :=
        hasDirectory_around further.hasDirectory_start
      rcases trail.directory around with ⟨entries, rfl⟩
      rcases further.hasDirectory_start with ⟨inner, found⟩
      rw [descend_child trail.descend] at found
      rcases induction_hypothesis (trail.down found) (by simp) with
        ⟨reached, others, onward, ends, same⟩
      refine ⟨reached, others, onward, ends, ?_⟩
      intro tail
      rw [List.cons_append, follow_cons, if_neg (ne_true_of_eq_false is_name.own),
        if_neg is_name.inward, if_neg (Nat.not_lt.mpr is_name.short), found]
      exact same tail

/-- Pieces that are followed to a directory, or to where more pieces come, lead there. -/
theorem leads_of_follow {tail final : List String} {found : Option Node}
    (trail : tree.Trail above node)
    (followed : follow above node (pieces ++ tail) = .ok (final, found))
    (inside : tail ≠ [] ∨ ∃ entries, found = some (.directory entries)) :
    ∃ middle, tree.Leads (passed above) pieces middle := by
  induction pieces generalizing above node with
  | nil =>
      refine ⟨passed above, .here ?_⟩
      cases node with
      | directory entries => exact ⟨entries, trail.descend⟩
      | file content =>
          cases tail with
          | cons piece tail => cases followed
          | nil =>
              rcases inside with nonempty | ⟨entries, rfl⟩
              · exact absurd rfl nonempty
              · cases followed
  | cons piece pieces induction_hypothesis =>
      cases node with
      | file content => cases followed
      | directory entries =>
          rw [List.cons_append, follow_cons] at followed
          split at followed
          · rename_i neutral
            rcases induction_hypothesis trail followed with ⟨middle, further⟩
            exact ⟨middle, .stay neutral further⟩
          rename_i own
          split at followed
          · rename_i outward
            subst outward
            have directory : tree.HasDirectory (passed above) := ⟨entries, trail.descend⟩
            cases trail with
            | start =>
                rcases induction_hypothesis .start followed with ⟨middle, further⟩
                exact ⟨middle, .up directory further⟩
            | @down above outer name _ outside found =>
                rcases induction_hypothesis outside followed with ⟨middle, further⟩
                refine ⟨middle, .up directory ?_⟩
                rw [passed_cons, List.dropLast_concat]
                exact further
          rename_i inward
          split at followed
          · cases followed
          rename_i short
          have is_name : IsName piece :=
            ⟨Bool.eq_false_iff.mpr own, inward, Nat.not_lt.mp short⟩
          cases entry : Entries.get? entries piece with
          | some inner =>
              rw [entry] at followed
              rcases induction_hypothesis (trail.down entry) followed with ⟨middle, further⟩
              rw [passed_cons] at further
              exact ⟨middle, .down is_name further⟩
          | none =>
              rw [entry] at followed
              simp only [List.isEmpty_iff, List.append_eq_nil_iff] at followed
              split at followed
              · rename_i last
                cases followed
                rcases inside with nonempty | ⟨_, impossible⟩
                · exact absurd last.2 nonempty
                · cases impossible
              · cases followed

end Node

end NetworkIsolation.FileSystem
