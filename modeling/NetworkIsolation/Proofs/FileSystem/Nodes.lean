import NetworkIsolation.FileSystem.Tree

/-!
# Changing one place of a tree

A change of a tree keeps its directories if every place that holds a directory
still holds one.  This is what the way through the tree depends on, whatever the
directories contain.  Putting a node where there is no directory keeps all of
them, and changes the entries of the one around it only under that name.
-/

namespace NetworkIsolation.FileSystem

namespace Node

/-- Whether names lead to a directory. -/
def HasDirectory (tree : Node) (names : List String) : Prop :=
  ∃ entries, tree.descend names = some (.directory entries)

/-- Whether every directory of a tree is still one in another. -/
def Keeps (tree changed : Node) : Prop :=
  ∀ names, tree.HasDirectory names → changed.HasDirectory names

theorem descend_directory_cons (entries : List (String × Node)) (name : String)
    (names : List String) :
    (directory entries).descend (name :: names) =
      (Entries.get? entries name).bind fun node => node.descend names := by
  rw [descend]
  cases Entries.get? entries name <;> rfl

theorem descend_append (node : Node) (first second : List String) :
    node.descend (first ++ second) =
      (node.descend first).bind fun inner => inner.descend second := by
  induction first generalizing node with
  | nil =>
      rw [List.nil_append, descend, Option.bind_some]
  | cons name names induction_hypothesis =>
      cases node with
      | file content => rfl
      | directory entries =>
          rw [List.cons_append, descend_directory_cons, descend_directory_cons]
          cases Entries.get? entries name with
          | none => rfl
          | some inner => exact induction_hypothesis inner

theorem descend_child {tree : Node} {names : List String} {entries : List (String × Node)}
    (found : tree.descend names = some (.directory entries)) (name : String) :
    tree.descend (names ++ [name]) = Entries.get? entries name := by
  rw [descend_append, found, Option.bind_some, descend_directory_cons]
  cases Entries.get? entries name <;> rfl

theorem hasDirectory_nil {tree : Node} {names : List String} (inside : tree.HasDirectory names) :
    tree.HasDirectory [] := by
  cases tree with
  | directory entries => exact ⟨entries, rfl⟩
  | file content =>
      rcases inside with ⟨entries, found⟩
      cases names <;> cases found

theorem hasDirectory_cons {entries : List (String × Node)} {name : String}
    {names : List String} :
    (directory entries).HasDirectory (name :: names) ↔
      ∃ node, Entries.get? entries name = some node ∧ node.HasDirectory names := by
  simp only [HasDirectory, descend_directory_cons, Option.bind_eq_some_iff]
  constructor
  · rintro ⟨inner, node, found, leads⟩
    exact ⟨node, found, inner, leads⟩
  · rintro ⟨node, found, inner, leads⟩
    exact ⟨inner, node, found, leads⟩

theorem hasDirectory_around {tree : Node} {outer inner : List String}
    (inside : tree.HasDirectory (outer ++ inner)) : tree.HasDirectory outer := by
  rcases inside with ⟨entries, found⟩
  rw [descend_append] at found
  cases reached : tree.descend outer with
  | none =>
      rw [reached] at found
      cases found
  | some node =>
      rw [reached, Option.bind_some] at found
      rcases hasDirectory_nil ⟨entries, found⟩ with ⟨others, here⟩
      cases here
      exact ⟨others, reached⟩

theorem keeps_insert {entries : List (String × Node)} {name : String} {changed : Node}
    (kept : ∀ names node, Entries.get? entries name = some node → node.HasDirectory names →
      changed.HasDirectory names) :
    (directory entries).Keeps (.directory (Entries.insert entries name changed)) := by
  intro names inside
  cases names with
  | nil => exact ⟨_, rfl⟩
  | cons first rest =>
      rcases hasDirectory_cons.mp inside with ⟨node, found, leads⟩
      by_cases same : name = first
      · subst same
        exact hasDirectory_cons.mpr
          ⟨changed, Entries.get?_insert_self entries name changed, kept rest node found leads⟩
      · refine hasDirectory_cons.mpr ⟨node, ?_, leads⟩
        rw [Entries.get?_insert_of_ne entries changed same]
        exact found

/-- Putting a node in the place of no directory keeps the directories. -/
theorem keeps_put (new : Node) {names : List String} {tree : Node}
    (outside : ¬ tree.HasDirectory names) : tree.Keeps (put new names tree) := by
  induction names, tree using put.induct with
  | case1 tree =>
      intro names inside
      exact absurd (hasDirectory_nil inside) outside
  | case2 name names content =>
      intro other inside
      exact inside
  | case3 name entries =>
      refine keeps_insert ?_
      intro names node found leads
      exact absurd (hasDirectory_cons.mpr ⟨node, found, hasDirectory_nil leads⟩) outside
  | case4 name names entries several node found induction_hypothesis =>
      rw [put, found]
      · refine keeps_insert ?_
        intro other inner same leads
        rw [found] at same
        cases same
        refine induction_hypothesis ?_ other leads
        intro inside
        exact outside (hasDirectory_cons.mpr ⟨node, found, inside⟩)
      · exact several
  | case5 name names entries several absent =>
      rw [put, absent]
      · intro other inside
        exact inside
      · exact several

/-- What is put further inside changes a node on the way as it changes its own tree. -/
theorem descend_put (new : Node) {outer inner : List String} {tree node : Node}
    (around : tree.descend outer = some node) (further : inner ≠ []) :
    (put new (outer ++ inner) tree).descend outer = some (put new inner node) := by
  induction outer generalizing tree with
  | nil =>
      cases around
      rfl
  | cons first rest induction_hypothesis =>
      cases tree with
      | file content => cases around
      | directory entries =>
          rw [descend_directory_cons] at around
          rcases Option.bind_eq_some_iff.mp around with ⟨next, found, leads⟩
          rw [List.cons_append, put, found]
          · rw [descend_directory_cons, Entries.get?_insert_self, Option.bind_some]
            exact induction_hypothesis leads
          · simp [further]

/-- A directory in a directory gets an entry. -/
theorem put_two (new : Node) {entries inner : List (String × Node)} {outer name : String}
    (found : Entries.get? entries outer = some (.directory inner)) :
    put new [outer, name] (.directory entries) =
      .directory (Entries.insert entries outer (.directory (Entries.insert inner name new))) := by
  rw [put, found]
  · rfl
  · simp

end Node

/-! ## Both trees -/

namespace Files

/-- The tree of relative or absolute paths. -/
def treeOf (files : Files) (absolute : Bool) : Node :=
  .directory (files.entriesOf absolute)

/-- Whether every directory is still one. -/
def Keeps (files changed : Files) : Prop :=
  ∀ absolute, (files.treeOf absolute).Keeps (changed.treeOf absolute)

theorem Keeps.refl (files : Files) : files.Keeps files :=
  fun _ _ inside => inside

theorem Keeps.trans {first second third : Files} (before : first.Keeps second)
    (after : second.Keeps third) : first.Keeps third :=
  fun absolute names inside => after absolute names (before absolute names inside)

theorem put_directory (new : Node) (entries : List (String × Node)) {names : List String}
    (inside : names ≠ []) :
    ∃ others, Node.put new names (.directory entries) = .directory others := by
  match names with
  | [name] => exact ⟨_, rfl⟩
  | first :: second :: rest =>
      rw [Node.put]
      · cases Entries.get? entries first with
        | none => exact ⟨_, rfl⟩
        | some node => exact ⟨_, rfl⟩
      · simp

theorem treeOf_putNode (files : Files) {location : Location} (inside : location.names ≠ [])
    (node : Node) (absolute : Bool) :
    (files.putNode location node).treeOf absolute =
      if absolute = location.absolute then
        Node.put node location.names (files.treeOf absolute)
      else files.treeOf absolute := by
  rcases location with ⟨of_root, names⟩
  rcases put_directory node (files.entriesOf of_root) inside with ⟨others, put⟩
  cases of_root <;> cases absolute <;> simp_all [treeOf, putNode, modifyTree, entriesOf]

/-- Putting a node in the place of no directory keeps the directories. -/
theorem keeps_putNode {files : Files} (location : Location) (node : Node)
    (outside : ¬ (files.treeOf location.absolute).HasDirectory location.names) :
    files.Keeps (files.putNode location node) := by
  have inside : location.names ≠ [] := by
    intro nowhere
    rw [nowhere] at outside
    exact outside ⟨_, rfl⟩
  intro absolute names reached
  rw [treeOf_putNode files inside]
  split
  · rename_i same
    subst same
    exact Node.keeps_put node outside names reached
  · exact reached

theorem descend_putNode {files : Files} (location : Location) {node : Node} {inner : List String}
    (around : (files.treeOf location.absolute).descend location.names = some node)
    (further : inner ≠ []) (new : Node) :
    ((files.putNode ⟨location.absolute, location.names ++ inner⟩ new).treeOf
        location.absolute).descend location.names = some (Node.put new inner node) := by
  have inside : location.names ++ inner ≠ [] := by simp [further]
  rw [treeOf_putNode files inside, if_pos rfl]
  exact Node.descend_put new around further

end Files

end NetworkIsolation.FileSystem
