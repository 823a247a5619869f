import NetworkIsolation.Proofs.FileSystem.Following
import NetworkIsolation.Proofs.FileSystem.Paths

/-!
# What a path finds

A path that leads to a directory still leads there after every change that keeps
the directories.  The path of an entry leads to that entry of the directory, and
only where there is a directory is anything found behind its path.
-/

namespace NetworkIsolation.FileSystem

/-- Whether a name may be that of an entry in any directory. -/
structure IsEntryName (name : String) : Prop extends Node.IsName name where
  no_slash : '/' ∉ name.toList
  no_nul : '\x00' ∉ name.toList

theorem IsEntryName.isUsable {name : String} (is_name : IsEntryName name) : IsUsable name := by
  refine ⟨is_name.no_nul, ?_, Nat.le_trans is_name.short (by decide)⟩
  rintro rfl
  cases is_name.own

namespace Files

open Node (passed)

/-- Whether a directory with these entries is at a place. -/
def HasEntries (files : Files) (location : Location) (entries : List (String × Node)) : Prop :=
  (files.treeOf location.absolute).descend location.names = some (.directory entries)

/-- Whether a path leads to a directory at a place. -/
structure LeadsTo (files : Files) (path : String) (location : Location) : Prop where
  usable : IsUsable path
  side : location.absolute = isAbsolute path
  leads : (files.treeOf location.absolute).Leads [] (pathPieces path) location.names

variable {files : Files} {path base name : String} {location : Location}
  {entries : List (String × Node)}

theorem LeadsTo.keeps {changed : Files} (leads_to : files.LeadsTo path location)
    (keeps : files.Keeps changed) : changed.LeadsTo path location :=
  ⟨leads_to.usable, leads_to.side, leads_to.leads.keeps (keeps location.absolute)⟩

theorem LeadsTo.hasEntries (leads_to : files.LeadsTo path location) :
    ∃ entries, files.HasEntries location entries :=
  leads_to.leads.hasDirectory_final

theorem no_directory_of_absent (absent : Entries.get? entries name = Option.none)
    (inner : List (String × Node)) : Entries.get? entries name ≠ some (.directory inner) := by
  intro found
  rw [absent] at found
  cases found

/-- Behind the place of a directory there is one only under a name that has one. -/
theorem HasEntries.outside (has_entries : files.HasEntries location entries)
    (no_directory : ∀ inner, Entries.get? entries name ≠ some (.directory inner)) :
    ¬ (files.treeOf location.absolute).HasDirectory (location.names ++ [name]) := by
  rintro ⟨inner, found⟩
  rw [Node.descend_child has_entries] at found
  exact no_directory inner found

/-- What putting a node under the name of no directory does to the directory around it. -/
theorem HasEntries.put (has_entries : files.HasEntries location entries)
    (no_directory : ∀ inner, Entries.get? entries name ≠ some (.directory inner)) (node : Node) :
    files.Keeps (files.putNode (location.child name) node) ∧
      (files.putNode (location.child name) node).HasEntries location
        (Entries.insert entries name node) :=
  ⟨keeps_putNode (location.child name) node (has_entries.outside no_directory),
    descend_putNode location has_entries (List.cons_ne_nil name []) node⟩

/-! ## Following from the place of a directory -/

theorem followPath_usable (files : Files) (usable : IsUsable path) (pieces : List String) :
    files.followPath path pieces =
      (follow [] (files.treeOf (isAbsolute path)) pieces).map fun found =>
        (⟨isAbsolute path, found.1⟩, found.2) := by
  have no_nul : path.contains '\x00' = false := by simp [usable.no_nul]
  have nonempty : path.isEmpty = false := String.isEmpty_eq_false_iff.mpr usable.nonempty
  rw [followPath, if_neg (ne_true_of_eq_false no_nul), if_neg (ne_true_of_eq_false nonempty),
    if_neg (Nat.not_lt.mpr usable.short), treeOf]
  cases follow [] (.directory (files.entriesOf (isAbsolute path))) pieces <;> rfl

theorem isUsable_of_followPath {pieces : List String} {found : Location × Option Node}
    (followed : files.followPath path pieces = .ok found) : IsUsable path := by
  rw [followPath] at followed
  split at followed
  · cases followed
  rename_i no_nul
  split at followed
  · cases followed
  rename_i nonempty
  split at followed
  · cases followed
  rename_i short
  constructor
  · simpa using no_nul
  · simpa using nonempty
  · exact Nat.not_lt.mp short

/-- What a path is followed to is on its side, where its pieces are followed to. -/
theorem follow_of_followPath {pieces : List String} {found : Option Node}
    (followed : files.followPath path pieces = .ok (location, found)) :
    location.absolute = isAbsolute path ∧
      follow [] (files.treeOf (isAbsolute path)) pieces = .ok (location.names, found) := by
  rw [followPath_usable files (isUsable_of_followPath followed)] at followed
  cases reached : follow [] (files.treeOf (isAbsolute path)) pieces with
  | error cause =>
      rw [reached] at followed
      cases followed
  | ok place =>
      rw [reached] at followed
      cases followed
      exact ⟨rfl, rfl⟩

theorem resolve_of_find {node : Node} (found : files.find path = .ok node) :
    ∃ location, files.resolve path = .ok (location, some node) := by
  cases resolved : files.resolve path with
  | error cause =>
      rw [find, resolved] at found
      cases found
  | ok place =>
      rcases place with ⟨location, inner⟩
      rw [find, resolved] at found
      cases inner with
      | none => cases found
      | some inner =>
          cases found
          exact ⟨location, rfl⟩

theorem find_of_exists? (there : files.exists? path = true) :
    ∃ node, files.find path = .ok node := by
  rw [exists?] at there
  rcases Option.isSome_iff_exists.mp there with ⟨node, found⟩
  exact ⟨node, toOption_eq_some.mp found⟩

theorem exists?_eq_false_iff :
    files.exists? path = false ↔ (files.find path).toOption = Option.none := by
  rw [exists?, Option.isSome_eq_false_iff, Option.isNone_iff_eq_none]

/-- Behind pieces that lead to a directory, a path is followed from the directory. -/
theorem followPath_append {pieces : List String} (usable : IsUsable path)
    (side : location.absolute = isAbsolute path)
    (leads : (files.treeOf location.absolute).Leads [] pieces location.names)
    (has_entries : files.HasEntries location entries) :
    ∃ above, passed above = location.names ∧ ∀ tail, files.followPath path (pieces ++ tail) =
      (follow above (.directory entries) tail).map fun found =>
        (⟨location.absolute, found.1⟩, found.2) := by
  rcases Node.follow_append leads .start rfl with ⟨above, others, trail, ends, same⟩
  have here := trail.descend
  rw [ends, has_entries] at here
  cases here
  refine ⟨above, ends, ?_⟩
  intro tail
  rw [followPath_usable files usable, ← side, same tail]

theorem LeadsTo.resolve (leads_to : files.LeadsTo path location)
    (has_entries : files.HasEntries location entries) :
    files.resolve path = .ok (location, some (.directory entries)) := by
  rcases followPath_append leads_to.usable leads_to.side leads_to.leads has_entries with
    ⟨above, ends, same⟩
  have followed := same []
  rw [List.append_nil] at followed
  change files.followPath path (pathPieces path) = _
  rw [followed, follow]
  change Except.ok ((⟨location.absolute, passed above⟩ : Location), _) = _
  rw [ends]

theorem LeadsTo.find (leads_to : files.LeadsTo path location)
    (has_entries : files.HasEntries location entries) :
    files.find path = .ok (.directory entries) := by
  rw [Files.find, leads_to.resolve has_entries]
  rfl

theorem LeadsTo.isDirectory (leads_to : files.LeadsTo path location) :
    files.isDirectory path = true := by
  rcases leads_to.hasEntries with ⟨entries, has_entries⟩
  rw [Files.isDirectory, leads_to.find has_entries]
  rfl

/-- Where a path finds a directory, it leads to its place. -/
theorem leadsTo_of_find (found : files.find path = .ok (.directory entries)) :
    ∃ location, files.LeadsTo path location ∧ files.HasEntries location entries := by
  rcases resolve_of_find found with ⟨location, resolved⟩
  rcases follow_of_followPath resolved with ⟨side, reached⟩
  rw [← List.append_nil (pathPieces path)] at reached
  rcases Node.leads_of_follow .start reached (.inr ⟨entries, rfl⟩) with ⟨final, leads⟩
  have leads_to : files.LeadsTo path ⟨isAbsolute path, final⟩ :=
    ⟨isUsable_of_followPath resolved, rfl, leads⟩
  rcases leads_to.hasEntries with ⟨others, has_entries⟩
  have again := leads_to.resolve has_entries
  rw [resolved] at again
  cases again
  exact ⟨_, leads_to, has_entries⟩

/-! ## Entries of a directory -/

/-- The pieces of the path of an entry, those that lead to the directory in front. -/
theorem LeadsTo.pieces (leads_to : files.LeadsTo base location)
    (no_slash : '/' ∉ name.toList) :
    ∃ pieces, pathPieces (joinPath base name) = pieces ++ [name] ∧
      (files.treeOf location.absolute).Leads [] pieces location.names := by
  rcases pathPieces_joinPath leads_to.usable.nonempty no_slash with ⟨pieces, either, joined⟩
  refine ⟨pieces, joined, ?_⟩
  have leads := leads_to.leads
  rcases either with same | same
  · rw [same] at leads
    exact leads
  · rw [same] at leads
    rcases leads.of_append with ⟨middle, inward, last⟩
    cases last.of_neutral rfl
    exact inward

/-- A name behind pieces that lead to a directory is looked up there. -/
theorem resolve_of_leads (location : Location) {pieces : List String} (usable : IsUsable path)
    (side : location.absolute = isAbsolute path) (parts : pathPieces path = pieces ++ [name])
    (leads : (files.treeOf location.absolute).Leads [] pieces location.names)
    (has_entries : files.HasEntries location entries) (is_name : Node.IsName name) :
    files.resolve path = .ok (location.child name, Entries.get? entries name) := by
  rcases followPath_append usable side leads has_entries with ⟨above, ends, same⟩
  rw [resolve, parts, same, Node.follow_cons, if_neg (ne_true_of_eq_false is_name.own),
    if_neg is_name.inward, if_neg (Nat.not_lt.mpr is_name.short)]
  cases Entries.get? entries name with
  | none =>
      change Except.ok ((⟨location.absolute, passed above ++ [name]⟩ : Location),
        Option.none) = _
      rw [ends]
      rfl
  | some node =>
      change Except.ok
        ((⟨location.absolute, passed ((name, .directory entries) :: above)⟩ : Location),
          some node) = _
      rw [Node.passed_cons, ends]
      rfl

/--
The directory in which entries of a path are looked up: the path leads to it, or it is
the working directory and there is no path to be joined to.
-/
def IsBase (files : Files) (base : String) (location : Location) : Prop :=
  base = "" ∧ location = ⟨false, []⟩ ∨ files.LeadsTo base location

theorem isBase_empty (files : Files) : files.IsBase "" ⟨false, []⟩ :=
  .inl ⟨rfl, rfl⟩

theorem IsBase.keeps {changed : Files} (is_base : files.IsBase base location)
    (keeps : files.Keeps changed) : changed.IsBase base location :=
  is_base.imp_right fun leads_to => leads_to.keeps keeps

theorem IsBase.hasEntries (is_base : files.IsBase base location) :
    ∃ entries, files.HasEntries location entries := by
  rcases is_base with ⟨-, rfl⟩ | leads_to
  · exact ⟨files.working, rfl⟩
  · exact leads_to.hasEntries

theorem joinPath_empty (name : String) : joinPath "" name = name := by
  simp [joinPath]

theorem IsBase.pieces (is_base : files.IsBase base location) (no_slash : '/' ∉ name.toList) :
    ∃ pieces, pathPieces (joinPath base name) = pieces ++ [name] ∧
      location.absolute = isAbsolute (joinPath base name) ∧
      (files.treeOf location.absolute).Leads [] pieces location.names := by
  rcases is_base with ⟨rfl, rfl⟩ | leads_to
  · rw [joinPath_empty]
    exact ⟨[], pathPieces_name no_slash, (isAbsolute_name no_slash).symm,
      .here ⟨files.working, rfl⟩⟩
  · rcases leads_to.pieces no_slash with ⟨pieces, parts, leads⟩
    refine ⟨pieces, parts, ?_, leads⟩
    rw [isAbsolute_joinPath leads_to.usable.nonempty no_slash]
    exact leads_to.side

/-- The path of an entry leads to the place of the entry and to what is there. -/
theorem IsBase.resolve_entry (is_base : files.IsBase base location)
    (has_entries : files.HasEntries location entries) (is_name : IsEntryName name)
    (usable : IsUsable (joinPath base name)) :
    files.resolve (joinPath base name) =
      .ok (location.child name, Entries.get? entries name) := by
  rcases is_base.pieces is_name.no_slash with ⟨pieces, parts, side, leads⟩
  exact resolve_of_leads location usable side parts leads has_entries is_name.toIsName

theorem IsBase.find_entry (is_base : files.IsBase base location)
    (has_entries : files.HasEntries location entries) (is_name : IsEntryName name)
    (usable : IsUsable (joinPath base name)) :
    (files.find (joinPath base name)).toOption = Entries.get? entries name := by
  rw [find, is_base.resolve_entry has_entries is_name usable]
  cases Entries.get? entries name <;> rfl

theorem LeadsTo.resolve_entry (leads_to : files.LeadsTo base location)
    (has_entries : files.HasEntries location entries) (is_name : IsEntryName name)
    (usable : IsUsable (joinPath base name)) :
    files.resolve (joinPath base name) =
      .ok (location.child name, Entries.get? entries name) :=
  IsBase.resolve_entry (.inr leads_to) has_entries is_name usable

/-- A name alone is looked up in the working directory. -/
theorem find_name (files : Files) (is_name : IsEntryName name) :
    (files.find name).toOption = Entries.get? files.working name := by
  have usable : IsUsable (joinPath "" name) := by
    rw [joinPath_empty]
    exact is_name.isUsable
  have has_entries : files.HasEntries ⟨false, []⟩ files.working := rfl
  have finds := (isBase_empty files).find_entry has_entries is_name usable
  rw [joinPath_empty] at finds
  exact finds

/-- Anything but a directory is found under a name in a directory. -/
theorem resolve_cases {found : Option Node} (resolved : files.resolve path = .ok (location, found))
    (no_directory : ∀ inner, found ≠ some (.directory inner)) :
    ∃ pieces name names entries, pathPieces path = pieces ++ [name] ∧ Node.IsName name ∧
      (files.treeOf (isAbsolute path)).Leads [] pieces names ∧
      files.HasEntries ⟨isAbsolute path, names⟩ entries ∧
      location = ⟨isAbsolute path, names ++ [name]⟩ ∧ found = Entries.get? entries name := by
  have some_pieces : pathPieces path ≠ [] := by
    simp [pathPieces, Text.splitAt_ne_nil]
  rcases List.eq_nil_or_concat (pathPieces path) with nothing | ⟨pieces, name, parts⟩
  · exact absurd nothing some_pieces
  rw [List.concat_eq_append] at parts
  rcases location with ⟨absolute, places⟩
  rcases follow_of_followPath resolved with ⟨side, reached⟩
  cases side
  rw [parts] at reached
  rcases Node.leads_of_follow .start reached (.inl (by simp)) with ⟨names, leads⟩
  rcases Node.follow_append leads .start rfl with ⟨above, entries, trail, rfl, same⟩
  rw [same, Node.follow_cons] at reached
  split at reached
  · cases reached
    exact absurd rfl (no_directory entries)
  rename_i own
  split at reached
  · cases trail with
    | start =>
        cases reached
        exact absurd rfl (no_directory _)
    | @down above outer _ _ outside found =>
        cases reached
        exact absurd rfl (no_directory outer)
  rename_i inward
  split at reached
  · cases reached
  rename_i short
  refine ⟨pieces, name, passed above, entries, parts,
    ⟨Bool.eq_false_iff.mpr own, inward, Nat.not_lt.mp short⟩, leads, trail.descend, ?_⟩
  cases there : Entries.get? entries name with
  | none =>
      rw [there] at reached
      cases reached
      exact ⟨rfl, rfl⟩
  | some node =>
      rw [there] at reached
      cases reached
      exact ⟨congrArg (Location.mk _) (Node.passed_cons _ above), rfl⟩

theorem LeadsTo.find_entry (leads_to : files.LeadsTo base location)
    (has_entries : files.HasEntries location entries) (is_name : IsEntryName name)
    (usable : IsUsable (joinPath base name)) :
    (files.find (joinPath base name)).toOption = Entries.get? entries name :=
  IsBase.find_entry (.inr leads_to) has_entries is_name usable

/-- The path of an entry that is a directory leads there. -/
theorem LeadsTo.child {inner : List (String × Node)} (leads_to : files.LeadsTo base location)
    (has_entries : files.HasEntries location entries) (is_name : IsEntryName name)
    (usable : IsUsable (joinPath base name))
    (found : Entries.get? entries name = some (.directory inner)) :
    files.LeadsTo (joinPath base name) (location.child name) ∧
      files.HasEntries (location.child name) inner := by
  have resolved := leads_to.resolve_entry has_entries is_name usable
  have finds : files.find (joinPath base name) = .ok (.directory inner) := by
    rw [Files.find, resolved, found]
    rfl
  rcases leadsTo_of_find finds with ⟨place, leads, holds⟩
  have again := leads.resolve holds
  rw [resolved, found] at again
  cases again
  exact ⟨leads, holds⟩

/-- The path of an entry is followed in a directory only. -/
theorem isBase_of_resolve_entry {place : Location} {found : Option Node}
    (no_slash : '/' ∉ name.toList)
    (resolved : files.resolve (joinPath base name) = .ok (place, found)) :
    ∃ location, files.IsBase base location := by
  by_cases empty : base = ""
  · subst empty
    exact ⟨_, isBase_empty files⟩
  rcases pathPieces_joinPath empty no_slash with ⟨pieces, either, parts⟩
  rcases follow_of_followPath resolved with ⟨-, reached⟩
  rw [parts, isAbsolute_joinPath empty no_slash] at reached
  rcases Node.leads_of_follow .start reached (.inl (by simp)) with ⟨final, leads⟩
  rcases joinPath_append empty no_slash with ⟨between, -, joined⟩
  have usable := isUsable_of_followPath resolved
  rw [joined, String.append_assoc] at usable
  refine ⟨⟨isAbsolute base, final⟩, .inr ⟨isUsable_front usable empty, rfl, ?_⟩⟩
  rcases either with same | same
  · rw [same]
    exact leads
  · rw [same]
    exact leads.append (.stay rfl (.here leads.hasDirectory_final))

/-- What is found behind the path of a directory is found in one. -/
theorem leadsTo_of_find_entry {node : Node} (nonempty : base ≠ "")
    (no_slash : '/' ∉ name.toList) (found : files.find (joinPath base name) = .ok node) :
    ∃ location, files.LeadsTo base location := by
  rcases resolve_of_find found with ⟨place, resolved⟩
  rcases isBase_of_resolve_entry no_slash resolved with ⟨location, ⟨empty, -⟩ | leads_to⟩
  · exact absurd empty nonempty
  · exact ⟨location, leads_to⟩

/-- Nothing is found below what is not there. -/
theorem find_entry_of_absent (nonempty : base ≠ "") (no_slash : '/' ∉ name.toList)
    (absent : (files.find base).toOption = Option.none) :
    (files.find (joinPath base name)).toOption = Option.none := by
  cases found : files.find (joinPath base name) with
  | error cause => rfl
  | ok node =>
      rcases leadsTo_of_find_entry nonempty no_slash found with ⟨location, leads_to⟩
      rcases leads_to.hasEntries with ⟨entries, has_entries⟩
      rw [leads_to.find has_entries] at absent
      cases absent

end Files

end NetworkIsolation.FileSystem
