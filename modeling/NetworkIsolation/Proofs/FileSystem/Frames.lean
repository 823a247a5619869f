import NetworkIsolation.Proofs.FileSystem.Directories

/-!
# What an operation leaves alone

An operation on files works at the places of a few paths.  Every other file of both
trees stays as it is, byte for byte, and no other file comes into being; every
directory stays a directory.  This is a relation between the files before and after
the operation, and it is kept when one operation follows another, also when the later
one fails.

Where a path leads does not change as long as the directories stay, so the places may
be looked up in the files after the operation.
-/

namespace NetworkIsolation.FileSystem

namespace Node

variable {tree : Node} {names other : List String} {content : ByteArray}

/-- What is put at one place is not seen from places that are not behind it. -/
theorem descend_put_file_iff (new : Node) (apart : ¬ names <+: other) :
    (put new names tree).descend other = some (.file content) ↔
      tree.descend other = some (.file content) := by
  induction names, tree using put.induct generalizing other with
  | case1 tree => exact absurd List.nil_prefix apart
  | case2 name names old => rfl
  | case3 name entries =>
      cases other with
      | nil => simp [put, descend]
      | cons first rest =>
          have different : name ≠ first := by
            rintro rfl
            exact apart (List.cons_prefix_cons.mpr ⟨rfl, List.nil_prefix⟩)
          rw [put, descend_directory_cons, descend_directory_cons,
            Entries.get?_insert_of_ne _ _ different]
  | case4 name names entries several node found induction_hypothesis =>
      rw [put, found]
      · cases other with
        | nil => simp [descend]
        | cons first rest =>
            rw [descend_directory_cons, descend_directory_cons]
            by_cases same : name = first
            · subst same
              have further : ¬ names <+: rest :=
                fun inside => apart (List.cons_prefix_cons.mpr ⟨rfl, inside⟩)
              rw [Entries.get?_insert_self, found]
              exact induction_hypothesis further
            · rw [Entries.get?_insert_of_ne _ _ same]
      · exact several
  | case5 name names entries several absent =>
      rw [put, absent]
      exact several

/-- Nothing is behind a file, and an empty directory has nothing in it. -/
def IsLeaf : Node → Prop
  | file _ => True
  | directory entries => entries = []

/-- A leaf has nothing behind it. -/
theorem IsLeaf.descend_cons {node : Node} (leaf : node.IsLeaf) (name : String)
    (names : List String) : node.descend (name :: names) = none := by
  cases node with
  | file content => rfl
  | directory entries =>
      cases leaf
      rfl

/-- A file behind names that lead to a leaf or nowhere is what the names lead to. -/
theorem eq_of_descend_file (leaves : ∀ node, tree.descend names = some node → node.IsLeaf)
    (inside : names <+: other) (found : tree.descend other = some (.file content)) :
    other = names := by
  rcases inside with ⟨rest, rfl⟩
  rw [descend_append] at found
  rcases Option.bind_eq_some_iff.mp found with ⟨node, reached, further⟩
  cases rest with
  | nil => exact List.append_nil names
  | cons first rest =>
      rw [(leaves node reached).descend_cons] at further
      cases further

end Node

namespace Files

variable {files changed final : Files} {path : String} {location place : Location}
  {name : String} {entries : List (String × Node)} {content : ByteArray}

/-! ## Putting a leaf -/

/-- Without directories there, what is under a name of a directory is a leaf. -/
theorem HasEntries.leaves (has_entries : files.HasEntries location entries)
    (no_directory : ∀ inner, Entries.get? entries name ≠ some (.directory inner)) (node : Node)
    (found : files.node? (location.child name) = some node) : node.IsLeaf := by
  have there : Entries.get? entries name = some node :=
    (Node.descend_child has_entries name).symm.trans found
  cases node with
  | file content => trivial
  | directory inner => exact absurd there (no_directory inner)

theorem HasEntries.node?_put (has_entries : files.HasEntries location entries)
    (no_directory : ∀ inner, Entries.get? entries name ≠ some (.directory inner)) (new : Node) :
    (files.putNode (location.child name) new).node? (location.child name) = some new :=
  (Node.descend_child (has_entries.put no_directory new).2 name).trans
    (Entries.get?_insert_self entries name new)

/-- Away from where a node is put, and not behind it, the files are the same. -/
theorem node?_putNode_file_iff (inside : location.names ≠ []) (new : Node)
    (apart : place.absolute = location.absolute → ¬ location.names <+: place.names) :
    (files.putNode location new).node? place = some (.file content) ↔
      files.node? place = some (.file content) := by
  change ((files.putNode location new).treeOf place.absolute).descend place.names = _ ↔
    (files.treeOf place.absolute).descend place.names = _
  rw [treeOf_putNode files inside]
  split
  · rename_i same
    exact Node.descend_put_file_iff new (apart same)
  · rfl

/-- A leaf that is put where no directory is does not touch the files of other places. -/
theorem HasEntries.node?_file_iff (has_entries : files.HasEntries location entries)
    (no_directory : ∀ inner, Entries.get? entries name ≠ some (.directory inner)) {new : Node}
    (leaf : new.IsLeaf) (different : place ≠ location.child name) :
    (files.putNode (location.child name) new).node? place = some (.file content) ↔
      files.node? place = some (.file content) := by
  rcases place with ⟨absolute, names⟩
  by_cases behind : absolute = location.absolute ∧ location.names ++ [name] <+: names
  · -- Behind the place there was no file before, and there is none now.
    rcases behind with ⟨rfl, inside⟩
    have put := has_entries.node?_put no_directory new
    constructor
    · intro found
      refine absurd (congrArg (Location.mk location.absolute) ?_) different
      refine Node.eq_of_descend_file ?_ inside found
      intro node reached
      cases put.symm.trans reached
      exact leaf
    · intro found
      refine absurd (congrArg (Location.mk location.absolute) ?_) different
      exact Node.eq_of_descend_file (has_entries.leaves no_directory) inside found
  · have inside : (location.child name).names ≠ [] := by simp [Location.child]
    exact node?_putNode_file_iff inside new fun side prefixed => behind ⟨side, prefixed⟩

/-! ## Places of paths -/

/-- Whether a path leads to a place, whatever is there. -/
def IsPlace (files : Files) (path : String) (location : Location) : Prop :=
  ∃ found, files.resolve path = .ok (location, found)

theorem hasEntries_of_resolve {inner : List (String × Node)}
    (resolved : files.resolve path = .ok (location, some (.directory inner))) :
    files.LeadsTo path location ∧ files.HasEntries location inner := by
  have finds : files.find path = .ok (.directory inner) := by
    rw [find, resolved]
    rfl
  rcases leadsTo_of_find finds with ⟨there, leads_to, has_entries⟩
  have again := leads_to.resolve has_entries
  rw [resolved] at again
  cases again
  exact ⟨leads_to, has_entries⟩

/-- What a path is resolved to is what is at its place. -/
theorem node?_of_resolve {found : Option Node}
    (resolved : files.resolve path = .ok (location, found)) : files.node? location = found := by
  by_cases directory : ∃ inner, found = some (.directory inner)
  · rcases directory with ⟨inner, rfl⟩
    exact (hasEntries_of_resolve resolved).2
  · rw [not_exists] at directory
    rcases resolve_cases resolved directory with
      ⟨pieces, name, names, entries, parts, is_name, leads, has_entries, rfl, rfl⟩
    exact Node.descend_child has_entries name

/-- A path leads to the same place as long as the directories stay. -/
theorem IsPlace.keeps (is_place : files.IsPlace path location) (keeps : files.Keeps changed) :
    changed.IsPlace path location := by
  rcases is_place with ⟨found, resolved⟩
  by_cases directory : ∃ inner, found = some (.directory inner)
  · rcases directory with ⟨inner, rfl⟩
    have still := (hasEntries_of_resolve resolved).1.keeps keeps
    rcases still.hasEntries with ⟨others, has_entries⟩
    exact ⟨_, still.resolve has_entries⟩
  · rw [not_exists] at directory
    rcases resolve_cases resolved directory with
      ⟨pieces, name, names, entries, parts, is_name, leads, has_entries, rfl, rfl⟩
    have still := leads.keeps (keeps _)
    rcases still.hasDirectory_final with ⟨others, has_entries⟩
    exact ⟨_, resolve_of_leads ⟨isAbsolute path, names⟩ (isUsable_of_followPath resolved) rfl
      parts still has_entries is_name⟩

/-- The last name of a place where no directory is found is the last piece of its path. -/
theorem getLast?_of_resolve {found : Option Node}
    (resolved : files.resolve path = .ok (location, found))
    (no_directory : ∀ inner, found ≠ some (.directory inner)) :
    location.names.getLast? = (pathPieces path).getLast? := by
  rcases resolve_cases resolved no_directory with
    ⟨pieces, name, names, entries, parts, is_name, leads, has_entries, rfl, rfl⟩
  simp [parts]

/-! ## The relation -/

/--
Between two states of the files, files are new at most at the places of some paths and
replaced at most at the places of others; and directories stay.
-/
structure DiffersAt (made replaced : List String) (files changed : Files) : Prop where
  keeps : files.Keeps changed
  kept : ∀ location content, files.node? location = some (.file content) →
    changed.node? location = some (.file content) ∨
      ∃ path ∈ replaced, changed.IsPlace path location
  expected : ∀ location content, changed.node? location = some (.file content) →
    files.node? location = some (.file content) ∨ ∃ path ∈ made, changed.IsPlace path location

namespace DiffersAt

variable {made replaced : List String}

theorem refl (made replaced : List String) (files : Files) :
    files.DiffersAt made replaced files where
  keeps := Keeps.refl files
  kept _ _ found := .inl found
  expected _ _ found := .inl found

theorem trans (first : DiffersAt made replaced files changed)
    (second : DiffersAt made replaced changed final) : DiffersAt made replaced files final where
  keeps := first.keeps.trans second.keeps
  kept location content found := by
    rcases first.kept location content found with kept | ⟨path, member, is_place⟩
    · exact second.kept location content kept
    · exact .inr ⟨path, member, is_place.keeps second.keeps⟩
  expected location content found := by
    rcases second.expected location content found with before | other
    · rcases first.expected location content before with old | ⟨path, member, is_place⟩
      · exact .inl old
      · exact .inr ⟨path, member, is_place.keeps second.keeps⟩
    · exact .inr other

theorem mono {more_made more_replaced : List String}
    (differs : DiffersAt made replaced files changed) (made_subset : made ⊆ more_made)
    (replaced_subset : replaced ⊆ more_replaced) :
    DiffersAt more_made more_replaced files changed where
  keeps := differs.keeps
  kept location content found :=
    (differs.kept location content found).imp_right fun ⟨path, member, is_place⟩ =>
      ⟨path, replaced_subset member, is_place⟩
  expected location content found :=
    (differs.expected location content found).imp_right fun ⟨path, member, is_place⟩ =>
      ⟨path, made_subset member, is_place⟩

end DiffersAt

/-! ## Operations -/

section

variable {made replaced : List String}

/-- What putting a leaf under the name of no directory makes and replaces. -/
theorem HasEntries.differsAt_put (has_entries : files.HasEntries location entries)
    (no_directory : ∀ inner, Entries.get? entries name ≠ some (.directory inner)) {new : Node}
    (leaf : new.IsLeaf)
    (makes : ∀ content, new = .file content →
      ∃ path ∈ made, files.IsPlace path (location.child name))
    (replaces : ∀ content, Entries.get? entries name = some (.file content) →
      ∃ path ∈ replaced, files.IsPlace path (location.child name)) :
    DiffersAt made replaced files (files.putNode (location.child name) new) := by
  have keeps := (has_entries.put no_directory new).1
  refine ⟨keeps, ?_, ?_⟩
  · intro place content found
    by_cases same : place = location.child name
    · subst same
      have there := (Node.descend_child has_entries name).symm.trans found
      rcases replaces content there with ⟨path, member, is_place⟩
      exact .inr ⟨path, member, is_place.keeps keeps⟩
    · exact .inl ((has_entries.node?_file_iff no_directory leaf same).mpr found)
  · intro place content found
    by_cases same : place = location.child name
    · subst same
      have put := has_entries.node?_put no_directory new
      rcases makes content (Option.some.inj (put.symm.trans found)) with ⟨path, member, is_place⟩
      exact .inr ⟨path, member, is_place.keeps keeps⟩
    · exact .inl ((has_entries.node?_file_iff no_directory leaf same).mp found)

/-- A file that is put where a path leads and no directory is. -/
theorem differsAt_putNode {found : Option Node}
    (resolved : files.resolve path = .ok (location, found))
    (no_directory : ∀ inner, found ≠ some (.directory inner)) (content : ByteArray) :
    DiffersAt [path] (if found.isSome then [path] else []) files
      (files.putNode location (.file content)) := by
  rcases resolve_cases resolved no_directory with
    ⟨pieces, name, names, entries, parts, is_name, leads, has_entries, rfl, rfl⟩
  have is_place : files.IsPlace path ((⟨isAbsolute path, names⟩ : Location).child name) :=
    ⟨_, resolved⟩
  refine has_entries.differsAt_put no_directory trivial ?_ ?_
  · intro _ _
    exact ⟨path, List.mem_singleton_self path, is_place⟩
  · intro old there
    rw [there]
    exact ⟨path, List.mem_singleton_self path, is_place⟩

theorem differsAt_makeDirectory (success : files.makeDirectory path = .ok changed) :
    DiffersAt [] [] files changed := by
  rcases makeDirectory_eq_ok success with ⟨names, name, entries, makes, rfl⟩
  refine makes.has_entries.differsAt_put (no_directory_of_absent makes.absent) rfl ?_ ?_
  · intro content impossible
    cases impossible
  · intro content there
    rw [makes.absent] at there
    cases there

theorem differsAt_openFile (success : files.openFile path = .ok changed) :
    DiffersAt [path] [] files changed := by
  rcases openFile_eq_ok success with ⟨location, found, resolved, ⟨-, rfl⟩ | ⟨rfl, rfl⟩⟩
  · exact .refl _ _ _
  · exact differsAt_putNode resolved (by simp) ByteArray.empty

theorem differsAt_putFile (success : files.putFile path content = .ok changed) :
    DiffersAt [path] [path] files changed := by
  rcases putFile_eq_ok success with ⟨location, found, resolved, no_directory, rfl⟩
  refine (differsAt_putNode resolved no_directory content).mono (List.Subset.refl _) ?_
  split <;> simp

/-- A file that is put where nothing is replaces nothing. -/
theorem differsAt_putFile_of_absent (absent : files.exists? path = false)
    (success : files.putFile path content = .ok changed) : DiffersAt [path] [] files changed := by
  rcases putFile_eq_ok success with ⟨location, found, resolved, no_directory, rfl⟩
  cases found with
  | none => exact differsAt_putNode resolved no_directory content
  | some node =>
      rw [exists?, find, resolved] at absent
      cases absent

/-- A file is still found if it is not replaced. -/
theorem DiffersAt.find_file (differs : DiffersAt made replaced files changed)
    (resolved : files.resolve path = .ok (location, some (.file content)))
    (apart : ∀ other ∈ replaced, ¬ changed.IsPlace other location) :
    changed.find path = .ok (.file content) := by
  rcases IsPlace.keeps ⟨_, resolved⟩ differs.keeps with ⟨found, still⟩
  rcases differs.kept location content (node?_of_resolve resolved) with
    kept | ⟨other, member, is_place⟩
  · cases (node?_of_resolve still).symm.trans kept
    rw [Files.find, still]
    rfl
  · exact absurd is_place (apart other member)

/-- A directory is still found. -/
theorem Keeps.find_directory (keeps : files.Keeps changed) {inner : List (String × Node)}
    (found : files.find path = .ok (.directory inner)) :
    ∃ others, changed.find path = .ok (.directory others) := by
  rcases leadsTo_of_find found with ⟨location, leads_to, -⟩
  rcases (leads_to.keeps keeps).hasEntries with ⟨others, has_entries⟩
  exact ⟨others, (leads_to.keeps keeps).find has_entries⟩

end

end Files

/-! ## Actions -/

/-- Whatever comes of an action on files, it differs at the given places at most. -/
def ActsAt {ε α : Type} (made replaced : List String) (action : ExceptT ε (StateM Files) α) :
    Prop :=
  ∀ files, Files.DiffersAt made replaced files (action.run files).2

namespace ActsAt

open Files (DiffersAt)

variable {ε α β : Type} {made replaced : List String}

theorem pure (value : α) : ActsAt made replaced (pure value : ExceptT ε (StateM Files) α) :=
  fun files => .refl made replaced files

theorem bind {action : ExceptT ε (StateM Files) α} {next : α → ExceptT ε (StateM Files) β}
    (acts : ActsAt made replaced action) (follows : ∀ value, ActsAt made replaced (next value)) :
    ActsAt made replaced (action >>= next) := by
  intro files
  refine state_of_run_bind (DiffersAt made replaced files) (acts files) ?_
  intro value changed _ first
  exact first.trans (follows value changed)

theorem adapt {ε' : Type} {action : ExceptT ε (StateM Files) α} (change : ε → ε')
    (acts : ActsAt made replaced action) : ActsAt made replaced (action.adapt change) :=
  acts

theorem mono {more_made more_replaced : List String} {action : ExceptT ε (StateM Files) α}
    (acts : ActsAt made replaced action) (made_subset : made ⊆ more_made)
    (replaced_subset : replaced ⊆ more_replaced) : ActsAt more_made more_replaced action :=
  fun files => (acts files).mono made_subset replaced_subset

end ActsAt

namespace FileAction

open Files (DiffersAt)

variable {made replaced : List String}

theorem actsAt_whole {operation : Files → Except SystemError Files}
    (success : ∀ files changed, operation files = .ok changed →
      DiffersAt made replaced files changed) :
    ActsAt made replaced (whole operation) := by
  intro files
  rw [whole, run_get_bind]
  cases outcome : operation files with
  | error cause => exact .refl made replaced files
  | ok changed => exact success files changed outcome

theorem actsAt_ensureDirectory (path : String) : ActsAt [] [] (ensureDirectory path) := by
  intro files
  rw [run_ensureDirectory]
  cases outcome : files.makeDirectory path with
  | ok changed => exact Files.differsAt_makeDirectory outcome
  | error cause =>
      dsimp only
      split <;> exact .refl [] [] files

theorem actsAt_ensureNearest (missing paths : List String) :
    ActsAt [] [] (ensureNearest missing paths) := by
  induction paths generalizing missing with
  | nil => exact .pure missing
  | cons path paths induction_hypothesis =>
      intro files
      have first := actsAt_ensureDirectory path files
      rw [run_ensureNearest]
      rcases ran : (ensureDirectory path).run files with ⟨outcome, changed⟩
      rw [ran] at first
      cases outcome with
      | ok done => exact first
      | error cause =>
          dsimp only
          split
          · exact induction_hypothesis (path :: missing) files
          · exact .refl [] [] files

theorem actsAt_forM (paths : List String) : ActsAt [] [] (paths.forM ensureDirectory) := by
  rw [List.forM_eq_forM]
  induction paths with
  | nil => exact .pure _
  | cons path paths induction_hypothesis =>
      rw [List.forM_cons]
      exact (actsAt_ensureDirectory path).bind fun _ => induction_hypothesis

/-- Making directories touches no file. -/
theorem actsAt_createDirectories (path : String) : ActsAt [] [] (createDirectories path) :=
  (actsAt_ensureNearest [] (enclosingPaths path)).bind actsAt_forM

theorem actsAt_settle (path : String) : ActsAt made replaced (settle path) := by
  intro files
  rw [settle, run_get_bind]
  cases files.find path <;> exact .refl made replaced files

end FileAction

end NetworkIsolation.FileSystem
