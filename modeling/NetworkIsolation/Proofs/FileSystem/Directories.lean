import NetworkIsolation.Proofs.FileSystem.Places

/-!
# Making directories and files

Every operation that makes something keeps the directories.  A path whose
directories have been made once has nothing left to make, in these files and in
all that keep their directories; making it again changes nothing.
-/

namespace NetworkIsolation.FileSystem

namespace Files

variable {files made : Files} {path base name : String} {location : Location}
  {entries : List (String × Node)}

/-! ## One directory -/

/-- The last name of a path, with the pieces in front of it and the empty ones behind it. -/
theorem pathPieces_last {outer : List String}
    (last : (pathPieces path).reverse.dropWhile (· = "") = name :: outer) :
    ∃ blanks, pathPieces path = outer.reverse ++ name :: blanks ∧ name ≠ "" ∧
      ∀ blank ∈ blanks, blank = "" := by
  have parts := List.takeWhile_append_dropWhile (p := fun piece => decide (piece = ""))
    (l := (pathPieces path).reverse)
  have all_blank := List.all_takeWhile (p := fun piece => decide (piece = ""))
    (l := (pathPieces path).reverse)
  have first := List.head?_dropWhile_not (fun piece => decide (piece = ""))
    (pathPieces path).reverse
  rw [last] at parts first
  generalize (pathPieces path).reverse.takeWhile (· = "") = blanks at parts all_blank
  refine ⟨blanks.reverse, ?_, by simpa using first, ?_⟩
  · have turned := congrArg List.reverse parts
    rw [List.reverse_reverse] at turned
    rw [← turned]
    simp
  · intro blank member
    simpa using List.all_eq_true.mp all_blank blank (List.mem_reverse.mp member)

theorem leads_blanks {tree : Node} {names : List String} (directory : tree.HasDirectory names)
    {blanks : List String} (blank : ∀ piece ∈ blanks, piece = "") :
    tree.Leads names blanks names := by
  induction blanks with
  | nil => exact .here directory
  | cons piece blanks induction_hypothesis =>
      have neutral : isNeutral piece = true := by
        rw [blank piece List.mem_cons_self]
        rfl
      refine .stay neutral (induction_hypothesis ?_)
      intro other member
      exact blank other (List.mem_cons_of_mem piece member)

/-- The directory around the last name of a path, which is where its other pieces lead. -/
theorem followPath_around (location : Location) {pieces : List String} (usable : IsUsable path)
    (side : location.absolute = isAbsolute path)
    (leads : (files.treeOf location.absolute).Leads [] pieces location.names) :
    ∃ node, files.followPath path (pieces ++ [""]) = .ok (location, node) := by
  rcases leads.hasDirectory_final with ⟨entries, has_entries⟩
  rcases followPath_append usable side leads has_entries with ⟨above, ends, same⟩
  refine ⟨some (.directory entries), ?_⟩
  rw [same]
  change Except.ok ((⟨location.absolute, Node.passed above⟩ : Location), _) = _
  rw [ends]

/-- No directory is made where a path leads to one. -/
theorem LeadsTo.makeDirectory (leads_to : files.LeadsTo path location) :
    files.makeDirectory path = .error .alreadyExists := by
  have nonempty : path.isEmpty = false := String.isEmpty_eq_false_iff.mpr leads_to.usable.nonempty
  rw [Files.makeDirectory]
  cases last : (pathPieces path).reverse.dropWhile (· = "") with
  | nil => simp [nonempty]
  | cons name outer =>
      rcases pathPieces_last last with ⟨blanks, pieces, named, blank⟩
      have leads := leads_to.leads
      rw [pieces] at leads
      rcases leads.of_append with ⟨names, around, inward⟩
      rcases followPath_around ⟨location.absolute, names⟩ leads_to.usable
        leads_to.side around with ⟨node, followed⟩
      simp only [followed]
      change (if name = "." || name = ".." then _ else _) = _
      split
      · rfl
      rename_i plain
      have is_name : Node.IsName name ∧
          (files.treeOf location.absolute).HasDirectory (names ++ [name]) := by
        cases inward with
        | stay neutral further => simp_all [isNeutral]
        | up directory further => simp at plain
        | down is_name further => exact ⟨is_name, further.hasDirectory_start⟩
      rcases is_name with ⟨is_name, inner, found⟩
      rw [if_neg (Nat.not_lt.mpr is_name.short), if_pos]
      · rfl
      · change ((files.treeOf location.absolute).descend (names ++ [name])).isSome = true
        rw [found]
        rfl

/-- A directory is made under a free name of the directory that the other pieces lead to. -/
structure Makes (files : Files) (path : String) (names : List String) (name : String)
    (entries : List (String × Node)) : Prop where
  usable : IsUsable path
  is_name : Node.IsName name
  leads : ∃ pieces blanks, pathPieces path = pieces ++ name :: blanks ∧
    (files.treeOf (isAbsolute path)).Leads [] pieces names ∧ ∀ blank ∈ blanks, blank = ""
  has_entries : files.HasEntries ⟨isAbsolute path, names⟩ entries
  absent : Entries.get? entries name = Option.none

theorem makeDirectory_eq_ok (success : files.makeDirectory path = .ok made) :
    ∃ names name entries, files.Makes path names name entries ∧
      made = files.putNode ((⟨isAbsolute path, names⟩ : Location).child name) (.directory []) := by
  rw [makeDirectory] at success
  cases last : (pathPieces path).reverse.dropWhile (· = "") with
  | nil => simp [last] at success
  | cons name outer =>
      simp only [last] at success
      rcases bind_eq_ok.mp success with ⟨⟨around, node⟩, followed, finished⟩
      rcases pathPieces_last last with ⟨blanks, pieces, named, blank⟩
      have usable := isUsable_of_followPath followed
      rcases follow_of_followPath followed with ⟨-, reached⟩
      rcases Node.leads_of_follow .start reached (.inl (by simp)) with ⟨names, leads⟩
      rcases followPath_around ⟨isAbsolute path, names⟩ usable rfl leads with ⟨inner, again⟩
      rw [followed] at again
      cases again
      change (if name = "." || name = ".." then _ else _) = _ at finished
      split at finished
      · cases finished
      rename_i plain
      split at finished
      · cases finished
      rename_i short
      split at finished
      · cases finished
      rename_i free
      cases finished
      have is_name : Node.IsName name := by
        simp only [Bool.or_eq_true, decide_eq_true_eq, not_or] at plain
        refine ⟨?_, plain.2, Nat.not_lt.mp short⟩
        simp [isNeutral, named, plain.1]
      rcases leads.hasDirectory_final with ⟨entries, has_entries⟩
      have absent : Entries.get? entries name = Option.none := by
        rw [← Node.descend_child has_entries name]
        exact Option.not_isSome_iff_eq_none.mp free
      exact ⟨names, name, entries,
        ⟨usable, is_name, ⟨outer.reverse, blanks, pieces, leads, blank⟩, has_entries, absent⟩, rfl⟩

/-- A directory that was made is where its path leads. -/
theorem leadsTo_of_makeDirectory (success : files.makeDirectory path = .ok made) :
    files.Keeps made ∧ ∃ location, made.LeadsTo path location := by
  rcases makeDirectory_eq_ok success with ⟨names, name, entries, makes, rfl⟩
  rcases makes.leads with ⟨pieces, blanks, parts, leads, blank⟩
  rcases makes.has_entries.put (no_directory_of_absent makes.absent) (.directory []) with
    ⟨keeps, there⟩
  have directory : ((files.putNode ((⟨isAbsolute path, names⟩ : Location).child name)
      (.directory [])).treeOf (isAbsolute path)).HasDirectory (names ++ [name]) := by
    refine ⟨[], ?_⟩
    exact (Node.descend_child there name).trans (Entries.get?_insert_self entries name _)
  refine ⟨keeps, ⟨isAbsolute path, names ++ [name]⟩, makes.usable, rfl, ?_⟩
  rw [parts]
  exact (leads.keeps (keeps _)).append (.down makes.is_name (leads_blanks directory blank))

/-- A name that is free in a directory is made as an empty directory. -/
theorem makeDirectory_of_leads (location : Location) {pieces : List String} (usable : IsUsable path)
    (side : location.absolute = isAbsolute path) (parts : pathPieces path = pieces ++ [name])
    (leads : (files.treeOf location.absolute).Leads [] pieces location.names)
    (has_entries : files.HasEntries location entries) (is_name : Node.IsName name)
    (absent : Entries.get? entries name = Option.none) :
    files.makeDirectory path = .ok (files.putNode (location.child name) (.directory [])) := by
  have plain : name ≠ "" ∧ name ≠ "." := by simpa [isNeutral] using is_name.own
  have last : (pathPieces path).reverse.dropWhile (· = "") = name :: pieces.reverse := by
    rw [parts, List.reverse_append, List.reverse_singleton, List.singleton_append,
      List.dropWhile_cons_of_neg (by simp [plain.1])]
  rcases followPath_around location usable side leads with ⟨node, followed⟩
  have free : files.node? (location.child name) = Option.none := by
    change (files.treeOf location.absolute).descend (location.names ++ [name]) = _
    rw [Node.descend_child has_entries, absent]
  rw [makeDirectory]
  simp only [last, List.reverse_reverse, followed]
  change (if name = "." || name = ".." then _ else _) = _
  rw [if_neg (by simp [plain.2, is_name.inward]), if_neg (Nat.not_lt.mpr is_name.short),
    if_neg (by simp [free])]
  rfl

/-- An entry that is not there is made as an empty directory. -/
theorem IsBase.makeDirectory_entry (is_base : files.IsBase base location)
    (has_entries : files.HasEntries location entries) (is_name : IsEntryName name)
    (usable : IsUsable (joinPath base name)) (absent : Entries.get? entries name = Option.none) :
    files.makeDirectory (joinPath base name) =
      .ok (files.putNode (location.child name) (.directory [])) := by
  rcases is_base.pieces is_name.no_slash with ⟨pieces, parts, side, leads⟩
  exact makeDirectory_of_leads location usable side parts leads has_entries is_name.toIsName absent

/-! ## Entries that are put -/

/-- What putting a node under a name does to a directory and to what its path finds. -/
theorem LeadsTo.put_entry (leads_to : files.LeadsTo base location)
    (has_entries : files.HasEntries location entries)
    (no_directory : ∀ inner, Entries.get? entries name ≠ some (.directory inner)) (node : Node) :
    files.Keeps (files.putNode (location.child name) node) ∧
      (files.putNode (location.child name) node).LeadsTo base location ∧
      (files.putNode (location.child name) node).HasEntries location
        (Entries.insert entries name node) := by
  rcases has_entries.put no_directory node with ⟨keeps, put⟩
  exact ⟨keeps, leads_to.keeps keeps, put⟩

/-- What putting a node into a directory does to the directory around it. -/
theorem HasEntries.put_inner {outer : String} {inner : List (String × Node)}
    (has_entries : files.HasEntries location entries)
    (found : Entries.get? entries outer = some (.directory inner))
    (no_directory : ∀ others, Entries.get? inner name ≠ some (.directory others)) (node : Node) :
    files.Keeps (files.putNode ((location.child outer).child name) node) ∧
      (files.putNode ((location.child outer).child name) node).HasEntries location
        (Entries.insert entries outer (.directory (Entries.insert inner name node))) := by
  have there : files.HasEntries (location.child outer) inner :=
    (Node.descend_child has_entries outer).trans found
  constructor
  · exact (there.put no_directory node).1
  · have put := descend_putNode location has_entries (List.cons_ne_nil outer [name]) node
    rw [Node.put_two node found] at put
    have path : location.names ++ [outer, name] = location.names ++ [outer] ++ [name] := by simp
    rw [path] at put
    exact put

/-- A file is put under a name that no directory has. -/
theorem LeadsTo.putFile_entry (leads_to : files.LeadsTo base location)
    (has_entries : files.HasEntries location entries) (is_name : IsEntryName name)
    (usable : IsUsable (joinPath base name))
    (no_directory : ∀ inner, Entries.get? entries name ≠ some (.directory inner))
    (content : ByteArray) :
    files.putFile (joinPath base name) content =
      .ok (files.putNode (location.child name) (.file content)) := by
  rw [putFile, leads_to.resolve_entry has_entries is_name usable]
  cases found : Entries.get? entries name with
  | none => rfl
  | some node =>
      cases node with
      | file old => rfl
      | directory inner => exact absurd found (no_directory inner)

/-- A file is put where its path leads, if no directory is there. -/
theorem putFile_eq_ok {content : ByteArray} (put : files.putFile path content = .ok made) :
    ∃ location found, files.resolve path = .ok (location, found) ∧
      (∀ inner, found ≠ some (.directory inner)) ∧
      made = files.putNode location (.file content) := by
  cases resolved : files.resolve path with
  | error cause =>
      rw [putFile, resolved] at put
      cases put
  | ok place =>
      rcases place with ⟨location, found⟩
      rw [putFile, resolved] at put
      cases found with
      | none =>
          cases put
          exact ⟨location, _, rfl, by simp, rfl⟩
      | some node =>
          cases node with
          | file old =>
              cases put
              exact ⟨location, _, rfl, by simp, rfl⟩
          | directory inner => cases put

/-- A file that was put is found under its path. -/
theorem find_of_putFile {content : ByteArray} (put : files.putFile path content = .ok made) :
    made.find path = .ok (.file content) := by
  rcases putFile_eq_ok put with ⟨location, found, resolved, no_directory, rfl⟩
  have usable := isUsable_of_followPath resolved
  rcases resolve_cases resolved no_directory with
    ⟨pieces, name, names, entries, parts, is_name, leads, has_entries, rfl, rfl⟩
  rcases has_entries.put no_directory (.file content) with ⟨keeps, inserted⟩
  change (files.putNode ((⟨isAbsolute path, names⟩ : Location).child name) _).find path = _
  rw [find, resolve_of_leads ⟨isAbsolute path, names⟩ usable rfl parts
    (leads.keeps (keeps _)) inserted is_name, Entries.get?_insert_self]
  rfl

/-- Opening a file makes an empty one where its path leads, unless there is one. -/
theorem openFile_eq_ok (opened : files.openFile path = .ok made) :
    ∃ location found, files.resolve path = .ok (location, found) ∧
      ((∃ content, found = some (.file content)) ∧ made = files ∨
        found = Option.none ∧ made = files.putNode location (.file ByteArray.empty)) := by
  cases resolved : files.resolve path with
  | error cause =>
      rw [openFile, resolved] at opened
      cases opened
  | ok place =>
      rcases place with ⟨location, found⟩
      rw [openFile, resolved] at opened
      cases found with
      | none =>
          cases opened
          exact ⟨location, _, rfl, .inr ⟨rfl, rfl⟩⟩
      | some node =>
          cases node with
          | file content =>
              cases opened
              exact ⟨location, _, rfl, .inl ⟨⟨content, rfl⟩, rfl⟩⟩
          | directory inner => cases opened

/-- Opening a file that is there changes nothing. -/
theorem LeadsTo.openFile_present {content : ByteArray} (leads_to : files.LeadsTo base location)
    (has_entries : files.HasEntries location entries) (is_name : IsEntryName name)
    (usable : IsUsable (joinPath base name))
    (present : Entries.get? entries name = some (.file content)) :
    files.openFile (joinPath base name) = .ok files := by
  rw [openFile, leads_to.resolve_entry has_entries is_name usable, present]
  rfl

/-- Opening a file that is not there makes it. -/
theorem LeadsTo.openFile_absent (leads_to : files.LeadsTo base location)
    (has_entries : files.HasEntries location entries) (is_name : IsEntryName name)
    (usable : IsUsable (joinPath base name))
    (absent : Entries.get? entries name = Option.none) :
    files.openFile (joinPath base name) =
      .ok (files.putNode (location.child name) (.file ByteArray.empty)) := by
  rw [openFile, leads_to.resolve_entry has_entries is_name usable, absent]
  rfl

end Files

/-! ## Directories in directories -/

namespace FileAction

open Files hiding none

variable {files made : Files} {path base name : String} {location : Location}
  {entries : List (String × Node)}

theorem run_whole {operation : Files → Except SystemError Files}
    (success : operation files = .ok made) : (whole operation).run files = (.ok (), made) := by
  rw [whole, run_get_bind, success]
  rfl

theorem ok_of_run_whole {operation : Files → Except SystemError Files}
    (done : (whole operation).run files = (.ok (), made)) : operation files = .ok made := by
  rw [whole, run_get_bind] at done
  cases changed : operation files with
  | error cause =>
      rw [changed] at done
      cases done
  | ok after =>
      rw [changed] at done
      cases done
      rfl

theorem run_ensureDirectory (path : String) (files : Files) :
    (ensureDirectory path).run files =
      match files.makeDirectory path with
      | .ok made => (.ok (), made)
      | .error cause =>
        if cause = SystemError.alreadyExists && files.isDirectory path then (.ok (), files)
        else (.error cause, files) := by
  rw [ensureDirectory, run_get_bind]
  cases files.makeDirectory path with
  | ok made => rfl
  | error cause =>
      change (if (cause = SystemError.alreadyExists && files.isDirectory path) = true then
        (pure () : FileAction Unit) else throw cause).run files = _
      by_cases there : (cause = SystemError.alreadyExists && files.isDirectory path) = true
      · simp only [if_pos there]
        rfl
      · simp only [if_neg there]
        rfl

theorem ensureDirectory_of_leadsTo (leads_to : files.LeadsTo path location) :
    (ensureDirectory path).run files = (.ok (), files) := by
  rw [run_ensureDirectory, leads_to.makeDirectory]
  simp [leads_to.isDirectory]

theorem leadsTo_of_ensureDirectory (success : (ensureDirectory path).run files = (.ok (), made)) :
    files.Keeps made ∧ ∃ location, made.LeadsTo path location := by
  rw [run_ensureDirectory] at success
  cases outcome : files.makeDirectory path with
  | ok after =>
      rw [outcome] at success
      cases success
      exact leadsTo_of_makeDirectory outcome
  | error cause =>
      simp only [outcome] at success
      split at success
      · rename_i there
        cases success
        refine ⟨Keeps.refl files, ?_⟩
        have directory := (Bool.and_eq_true _ _ ▸ there).2
        rw [isDirectory] at directory
        cases found : files.find path with
        | error cause => simp [found] at directory
        | ok node =>
            cases node with
            | file content => simp [found, Node.isFile] at directory
            | directory entries =>
                rcases leadsTo_of_find found with ⟨location, leads_to, -⟩
                exact ⟨location, leads_to⟩
      · cases success

theorem keeps_of_forM {paths : List String}
    (success : (paths.forM ensureDirectory).run files = (.ok (), made)) : files.Keeps made := by
  induction paths generalizing files with
  | nil =>
      cases success
      exact Keeps.refl _
  | cons path paths induction_hypothesis =>
      rw [List.forM_eq_forM, List.forM_cons] at success
      rcases ok_of_run_bind success with ⟨_, between, first, rest⟩
      exact (leadsTo_of_ensureDirectory first).1.trans (induction_hypothesis rest)

theorem run_ensureNearest (missing : List String) (path : String) (paths : List String)
    (files : Files) :
    (ensureNearest missing (path :: paths)).run files =
      match (ensureDirectory path).run files with
      | (.ok (), made) => (.ok missing, made)
      | (.error cause, _) =>
        if cause = .notFound then (ensureNearest (path :: missing) paths).run files
        else (.error cause, files) := by
  rw [ensureNearest, run_get_bind]
  rcases (ensureDirectory path).run files with ⟨outcome, after⟩
  cases outcome with
  | ok done => rfl
  | error cause =>
      by_cases absent : cause = .notFound
      · simp only [if_pos absent]
      · simp only [if_neg absent]
        rfl

/-- The paths in front of the first one that is made end with those that were missing before. -/
theorem missing_of_ensureNearest {missing paths rest : List String}
    (success : (ensureNearest missing paths).run files = (.ok rest, made)) :
    files.Keeps made ∧ ∃ front, rest = front ++ missing := by
  induction paths generalizing missing with
  | nil =>
      cases success
      exact ⟨Keeps.refl _, [], rfl⟩
  | cons path paths induction_hypothesis =>
      rw [run_ensureNearest] at success
      split at success
      · rename_i after first
        cases success
        exact ⟨(leadsTo_of_ensureDirectory first).1, [], rfl⟩
      · split at success
        · rcases induction_hypothesis success with ⟨keeps, front, rfl⟩
          exact ⟨keeps, front ++ [path], by simp⟩
        · cases success

/-- Whether the directories of a path are there. -/
def IsMade (files : Files) (path : String) : Prop :=
  enclosingPaths path = [] ∨ ∃ location, files.LeadsTo path location

theorem IsMade.keeps (is_made : IsMade files path) (keeps : files.Keeps made) :
    IsMade made path := by
  rcases is_made with nothing | ⟨location, leads_to⟩
  · exact .inl nothing
  · exact .inr ⟨location, leads_to.keeps keeps⟩

theorem enclosingPaths_cases (path : String) :
    enclosingPaths path = [] ∨ ∃ around, enclosingPaths path = path :: around := by
  rw [enclosingPaths]
  cases pathsOfReversed (pathPieces path).reverse with
  | nil => exact .inl rfl
  | cons first around => exact .inr ⟨around, rfl⟩

/-- After directories were made they are there. -/
theorem isMade_of_createDirectories
    (success : (createDirectories path).run files = (.ok (), made)) :
    files.Keeps made ∧ IsMade made path := by
  rcases ok_of_run_bind success with ⟨missing, between, nearest, rest⟩
  have kept := keeps_of_forM rest
  rcases enclosingPaths_cases path with nothing | ⟨around, paths⟩
  · exact ⟨(missing_of_ensureNearest nearest).1.trans kept, .inl nothing⟩
  rw [paths, run_ensureNearest] at nearest
  split at nearest
  · rename_i after first
    cases nearest
    cases rest
    rcases leadsTo_of_ensureDirectory first with ⟨keeps, leads_to⟩
    exact ⟨keeps, .inr leads_to⟩
  · split at nearest
    · rcases missing_of_ensureNearest nearest with ⟨keeps, front, rfl⟩
      rw [List.forM_eq_forM, List.forM_append] at rest
      rcases ok_of_run_bind rest with ⟨_, before, -, last⟩
      rw [List.forM_cons] at last
      rcases ok_of_run_bind last with ⟨_, final, ensured, finished⟩
      cases finished
      exact ⟨keeps.trans kept, .inr (leadsTo_of_ensureDirectory ensured).2⟩
    · cases nearest

/-- Directories that are there are not made again. -/
theorem createDirectories_of_isMade (is_made : IsMade files path) :
    (createDirectories path).run files = (.ok (), files) := by
  rcases enclosingPaths_cases path with nothing | ⟨around, paths⟩
  · rw [createDirectories, nothing]
    rfl
  rcases is_made with nothing | ⟨location, leads_to⟩
  · rw [nothing] at paths
    cases paths
  have nearest : (ensureNearest [] (path :: around)).run files = (.ok [], files) := by
    rw [run_ensureNearest, ensureDirectory_of_leadsTo leads_to]
  rw [createDirectories, paths, run_bind_of_ok nearest]
  rfl

/-- A directory that is missing in one that is there is made. -/
theorem createDirectories_entry (is_base : files.IsBase base location)
    (has_entries : files.HasEntries location entries) (is_name : IsEntryName name)
    (usable : IsUsable (joinPath base name)) (absent : Entries.get? entries name = none) :
    (createDirectories (joinPath base name)).run files =
      (.ok (), files.putNode (location.child name) (.directory [])) := by
  rcases is_base.pieces is_name.no_slash with ⟨pieces, parts, -, -⟩
  have some_paths : enclosingPaths (joinPath base name) ≠ [] := by
    simp [enclosingPaths, parts, pathsOfReversed, is_name.own]
  rcases enclosingPaths_cases (joinPath base name) with nothing | ⟨around, paths⟩
  · exact absurd nothing some_paths
  have nearest : (ensureNearest [] (joinPath base name :: around)).run files =
      (.ok [], files.putNode (location.child name) (.directory [])) := by
    rw [run_ensureNearest, run_ensureDirectory,
      is_base.makeDirectory_entry has_entries is_name usable absent]
  rw [createDirectories, paths, run_bind_of_ok nearest]
  rfl

theorem run_settle {node : Node} (found : files.find path = .ok node) :
    (settle path).run files = (.ok (), files) := by
  rw [settle, run_get_bind, found]
  rfl

end FileAction

end NetworkIsolation.FileSystem
