import NetworkIsolation.FileSystem.Temporary
import NetworkIsolation.Proofs.FileSystem.Siblings

/-!
# Replacing a file by way of a temporary one

The temporary file stands under a name that nothing in the directory has.  So it changes
nothing that another name leads to, and taking it away gives back exactly the files that were
there before.  With both facts `run_replaceFile` reduces the whole protocol to putting the
file in place at once: on success only the path of the target has changed, and on failure, as
where a directory is in the way, nothing has.
-/

namespace NetworkIsolation.FileSystem

namespace Node

theorem put_put (first second : Node) (names : List String) (tree : Node) :
    put second names (put first names tree) = put second names tree := by
  induction names, tree using put.induct with
  | case1 tree => rfl
  | case2 name names content => rfl
  | case3 name entries => simp [put]
  | case4 name names entries several node found induction_hypothesis =>
      rw [put, found, put, Entries.get?_insert_self, put, found]
      · simp only [Entries.insert_insert, induction_hypothesis]
      all_goals exact several
  | case5 name names entries several absent =>
      rw [put, absent]
      exact several

/-- Taking away what was put under a new name in a directory. -/
theorem erase_put (new : Node) {names : List String} {name : String} {tree : Node}
    {entries : List (String × Node)} (found : tree.descend names = some (.directory entries))
    (absent : name ∉ entries.map Prod.fst) :
    erase (names ++ [name]) (put new (names ++ [name]) tree) = tree := by
  induction names generalizing tree with
  | nil =>
      cases found
      change directory ((Entries.insert entries name new).filter _) = _
      rw [Entries.filter_insert_of_absent absent]
  | cons first rest induction_hypothesis =>
      cases tree with
      | file content => cases found
      | directory others =>
          rw [descend_directory_cons] at found
          rcases Option.bind_eq_some_iff.mp found with ⟨next, there, leads⟩
          have further : rest ++ [name] ≠ [] := by simp
          rw [List.cons_append, put, there]
          · rw [erase, Entries.get?_insert_self]
            · simp only [Entries.insert_insert, induction_hypothesis leads,
                Entries.insert_of_get? there]
            · simp [further]
          · simp [further]

end Node

namespace Files

variable {files : Files} {base name path : String} {location : Location}
  {entries : List (String × Node)}

theorem putNode_putNode (files : Files) {location : Location} (inside : location.names ≠ [])
    (first second : Node) :
    (files.putNode location first).putNode location second = files.putNode location second := by
  rcases location with ⟨of_root, names⟩
  rcases put_directory first (files.entriesOf of_root) inside with ⟨others, put⟩
  have again := Node.put_put first second names (.directory (files.entriesOf of_root))
  rw [put] at again
  cases of_root <;> simp_all [putNode, modifyTree, entriesOf]

/-- The files are as they were when a new entry is taken away. -/
theorem HasEntries.eraseNode_putNode (has_entries : files.HasEntries location entries)
    (absent : name ∉ entries.map Prod.fst) (node : Node) :
    (files.putNode (location.child name) node).eraseNode (location.child name) = files := by
  rcases location with ⟨of_root, names⟩
  have inside : names ++ [name] ≠ [] := by simp
  rcases put_directory node (files.entriesOf of_root) inside with ⟨others, put⟩
  have erased := Node.erase_put node has_entries absent
  rw [treeOf, put] at erased
  cases of_root <;>
    simp_all [putNode, eraseNode, modifyTree, entriesOf, Location.child]

theorem HasEntries.node?_putNode (has_entries : files.HasEntries location entries)
    (absent : name ∉ entries.map Prod.fst) (node : Node) :
    (files.putNode (location.child name) node).node? (location.child name) = some node := by
  have no_directory := no_directory_of_absent (Entries.get?_eq_none absent)
  rcases has_entries.put no_directory node with ⟨-, put⟩
  exact (Node.descend_child put name).trans (Entries.get?_insert_self entries name node)

/-! ## Paths beside a new entry -/

theorem resolve_of_unusable (files made : Files) (unusable : ¬ IsUsable path) :
    made.resolve path = files.resolve path := by
  rw [resolve, resolve, followPath, followPath]
  split
  · rfl
  rename_i no_nul
  split
  · rfl
  rename_i nonempty
  split
  · rfl
  rename_i short
  exact absurd ⟨by simpa using no_nul, by simpa using nonempty, Nat.not_lt.mp short⟩ unusable

/-- A new entry changes no path of another one. -/
theorem IsBase.resolve_sibling (is_base : files.IsBase base location)
    (has_entries : files.HasEntries location entries) {new : String}
    (absent : new ∉ entries.map Prod.fst) (is_name : IsEntryName name) (different : new ≠ name)
    (node : Node) :
    (files.putNode (location.child new) node).resolve (joinPath base name) =
      files.resolve (joinPath base name) := by
  have no_directory := no_directory_of_absent (Entries.get?_eq_none absent)
  rcases has_entries.put no_directory node with ⟨keeps, put⟩
  by_cases usable : IsUsable (joinPath base name)
  · rw [(is_base.keeps keeps).resolve_entry put is_name usable,
      is_base.resolve_entry has_entries is_name usable, Entries.get?_insert_of_ne _ _ different]
  · exact resolve_of_unusable files _ usable

/-- The path of a directory, or a dot for the working directory, leads to its place. -/
theorem IsBase.resolve (is_base : files.IsBase base location)
    (has_entries : files.HasEntries location entries) :
    files.resolve (if base.isEmpty then "." else base) =
      .ok (location, some (.directory entries)) := by
  rcases is_base with ⟨rfl, rfl⟩ | leads_to
  · cases has_entries
    have usable : IsUsable "." := ⟨by decide, by decide, by decide⟩
    have pieces : pathPieces "." = ["."] := by decide +kernel
    have relative : isAbsolute "." = false := by decide +kernel
    change files.followPath "." (pathPieces ".") = _
    rw [followPath_usable files usable, pieces, relative]
    rfl
  · rw [if_neg (by simp [leads_to.usable.nonempty])]
    exact leads_to.resolve has_entries

end Files

/-! ## The steps -/

namespace FileAction

variable {files : Files} {base name : String} {location : Location}
  {entries : List (String × Node)}

theorem run_createTemporary (is_base : files.IsBase base location)
    (has_entries : files.HasEntries location entries) (names : TemporaryNames) :
    (createTemporary names base).run files =
      (.ok (location.child (names.pick (entries.map Prod.fst))),
        files.putNode (location.child (names.pick (entries.map Prod.fst))) (.file .empty)) := by
  rw [createTemporary, run_get_bind, is_base.resolve has_entries]
  rfl

section

variable {place target : Location} {path : String} {node : Node}

theorem run_rename_of_error {cause : SystemError} (there : files.node? place = some node)
    (resolved : files.resolve path = .error cause) :
    (rename place path).run files = (.error cause, files) := by
  rw [rename, run_get_bind, resolved, there]
  rfl

/-- A directory is not replaced by a file. -/
theorem run_rename_of_directory {inner : List (String × Node)}
    (there : files.node? place = some node)
    (resolved : files.resolve path = .ok (target, some (.directory inner))) :
    (rename place path).run files = (.error .isDirectory, files) := by
  rw [rename, run_get_bind, resolved, there]
  rfl

theorem run_rename {found : Option Node} (there : files.node? place = some node)
    (resolved : files.resolve path = .ok (target, found))
    (no_directory : ∀ inner, found ≠ some (.directory inner)) :
    (rename place path).run files = (.ok (), (files.eraseNode place).putNode target node) := by
  rw [rename, run_get_bind, resolved, there]
  rcases found with none | ⟨old | inner⟩
  · rfl
  · rfl
  · exact absurd rfl (no_directory inner)

end

theorem run_discarding_of_ok {temporary : Location} {action : FileAction Unit} {after : Files}
    (done : action.run files = (.ok (), after)) :
    (discarding temporary action).run files = (.ok (), after) :=
  run_tryCatch_of_ok done

theorem run_discarding_of_error {temporary : Location} {action : FileAction Unit}
    {after : Files} {cause : SystemError} (failed : action.run files = (.error cause, after)) :
    (discarding temporary action).run files = (.error cause, after.eraseNode temporary) :=
  run_tryCatch_of_error failed

/-- Replacing a file in a directory that is there puts the file in place, or changes nothing. -/
theorem run_replaceFile (is_base : files.IsBase base location) (is_name : IsEntryName name)
    (unmarked : ∀ letters, name ≠ ".tmp" ++ letters) (names : TemporaryNames)
    (content : ByteArray) :
    (replaceFile names base (joinPath base name) content).run files =
      (whole fun files => files.putFile (joinPath base name) content).run files := by
  rcases is_base.hasEntries with ⟨entries, has_entries⟩
  have made := run_createTemporary is_base has_entries names
  have absent := names.fresh (entries.map Prod.fst)
  have different : names.pick (entries.map Prod.fst) ≠ name := by
    rcases names.marked (entries.map Prod.fst) with ⟨letters, marked⟩
    rw [marked]
    exact (unmarked letters).symm
  generalize names.pick (entries.map Prod.fst) = new at *
  have inside : (location.child new).names ≠ [] := by simp [Location.child]
  have written : (write (location.child new) content).run
      (files.putNode (location.child new) (.file .empty)) =
        (.ok (), files.putNode (location.child new) (.file content)) := by
    rw [← Files.putNode_putNode files inside (.file .empty) (.file content)]
    rfl
  have steps : (do
      write (location.child new) content
      rename (location.child new) (joinPath base name) : FileAction Unit).run
        (files.putNode (location.child new) (.file .empty)) =
      (rename (location.child new) (joinPath base name)).run
        (files.putNode (location.child new) (.file content)) := run_bind_of_ok written
  have same_place := is_base.resolve_sibling has_entries absent is_name different (.file content)
  have there := has_entries.node?_putNode absent (.file content)
  have gone := has_entries.eraseNode_putNode absent (.file content)
  rw [replaceFile, run_bind_of_ok made, whole, run_get_bind, Files.putFile]
  cases resolved : files.resolve (joinPath base name) with
  | error cause =>
      have failed := steps.trans (run_rename_of_error there (same_place.trans resolved))
      rw [run_discarding_of_error failed, gone]
      rfl
  | ok found =>
      rcases found with ⟨place, none | ⟨old | inner⟩⟩
      · have moved := steps.trans (run_rename there (same_place.trans resolved) (by simp))
        rw [run_discarding_of_ok moved, gone]
        rfl
      · have moved := steps.trans (run_rename there (same_place.trans resolved) (by simp))
        rw [run_discarding_of_ok moved, gone]
        rfl
      · have failed := steps.trans (run_rename_of_directory there (same_place.trans resolved))
        rw [run_discarding_of_error failed, gone]
        rfl

end FileAction

end NetworkIsolation.FileSystem
