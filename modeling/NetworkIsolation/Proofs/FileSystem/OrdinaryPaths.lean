import NetworkIsolation.Proofs.FileSystem.Directories

/-!
# Making the directories of an ordinary path

A path is ordinary if it does not step out of a directory and its names are short
enough.  As long as no file is in the way, the directories of an ordinary path can
be made, and the innermost one is empty if it was not there before.

Directories are looked for from the inside out.  The nearest one that is missing
in a directory is made first, and then those inside it, one after another.
-/

namespace NetworkIsolation.FileSystem

/-- A piece that stays or leads further inside. -/
def IsOrdinary (piece : String) : Prop :=
  isNeutral piece = true ∨ Node.IsName piece

/-- The names among the pieces of a path. -/
def namesOf (pieces : List String) : List String :=
  pieces.filter fun piece => !isNeutral piece

theorem namesOf_neutral {piece : String} (neutral : isNeutral piece = true)
    (pieces : List String) : namesOf (piece :: pieces) = namesOf pieces := by
  simp [namesOf, neutral]

theorem namesOf_name {piece : String} (own : isNeutral piece = false)
    (pieces : List String) : namesOf (piece :: pieces) = piece :: namesOf pieces := by
  simp [namesOf, own]

theorem namesOf_append (first second : List String) :
    namesOf (first ++ second) = namesOf first ++ namesOf second :=
  List.filter_append first second

namespace Node

open Files (follow)

variable {tree node : Node} {above : List (String × Node)} {pieces : List String}

/-- Ordinary pieces lead to their names, if a directory is there. -/
theorem leads_ordinary (start : List String) (ordinary : ∀ piece ∈ pieces, IsOrdinary piece)
    (directory : tree.HasDirectory (start ++ namesOf pieces)) :
    tree.Leads start pieces (start ++ namesOf pieces) := by
  induction pieces generalizing start with
  | nil =>
      have nothing : start ++ namesOf [] = start := List.append_nil start
      rw [nothing] at directory ⊢
      exact .here directory
  | cons piece pieces induction_hypothesis =>
      have later : ∀ other ∈ pieces, IsOrdinary other :=
        fun other member => ordinary other (List.mem_cons_of_mem piece member)
      rcases ordinary piece List.mem_cons_self with neutral | is_name
      · rw [namesOf_neutral neutral] at directory ⊢
        exact .stay neutral (induction_hypothesis start later directory)
      · have split : start ++ piece :: namesOf pieces = start ++ [piece] ++ namesOf pieces := by
          simp
        rw [namesOf_name is_name.own, split] at directory ⊢
        exact .down is_name (induction_hypothesis (start ++ [piece]) later directory)

/-- Ordinary pieces are not followed to where no directory is, unless a file is in the way. -/
theorem follow_missing {tail : List String} (trail : tree.Trail above node)
    (ordinary : ∀ piece ∈ pieces, IsOrdinary piece)
    (clear : ∀ names content, names <+: namesOf pieces →
      tree.descend (passed above ++ names) ≠ some (.file content))
    (outside : ¬ tree.HasDirectory (passed above ++ namesOf pieces)) (further : tail ≠ []) :
    follow above node (pieces ++ tail) = .error .notFound := by
  induction pieces generalizing above node with
  | nil =>
      have nothing : passed above ++ namesOf [] = passed above := List.append_nil _
      cases node with
      | directory entries =>
          rw [nothing] at outside
          exact absurd ⟨entries, trail.descend⟩ outside
      | file content =>
          have blocked := clear [] content List.nil_prefix
          rw [List.append_nil] at blocked
          exact absurd trail.descend blocked
  | cons piece pieces induction_hypothesis =>
      have later : ∀ other ∈ pieces, IsOrdinary other :=
        fun other member => ordinary other (List.mem_cons_of_mem piece member)
      cases node with
      | file content =>
          have blocked := clear [] content List.nil_prefix
          rw [List.append_nil] at blocked
          exact absurd trail.descend blocked
      | directory entries =>
          rw [List.cons_append, follow_cons]
          rcases ordinary piece List.mem_cons_self with neutral | is_name
          · rw [if_pos neutral]
            rw [namesOf_neutral neutral] at clear outside
            exact induction_hypothesis trail later clear outside
          · rw [if_neg (ne_true_of_eq_false is_name.own), if_neg is_name.inward,
              if_neg (Nat.not_lt.mpr is_name.short)]
            rw [namesOf_name is_name.own] at clear outside
            cases found : Entries.get? entries piece with
            | none => simp [further]
            | some inner =>
                have split : ∀ names : List String, passed above ++ piece :: names =
                    passed ((piece, directory entries) :: above) ++ names := by
                  intro names
                  simp
                refine induction_hypothesis (trail.down found) later ?_ ?_
                · intro names content inward
                  rw [← split]
                  exact clear (piece :: names) content (List.cons_prefix_cons.mpr ⟨rfl, inward⟩)
                · rw [← split]
                  exact outside

end Node

namespace FileAction

open Files hiding none

variable {files : Files} {absolute : Bool} {path name : String}
  {names pieces ahead reversed : List String} {entries : List (String × Node)}

/-- Ordinary pieces from which a path can be spelled up to each name. -/
structure AreOrdinary (absolute : Bool) (pieces : List String) : Prop where
  ordinary : ∀ piece ∈ pieces, IsOrdinary piece
  spelled : ∀ front, front <+: pieces → namesOf front ≠ [] →
    IsUsable ("/".intercalate front) ∧ isAbsolute ("/".intercalate front) = absolute ∧
      pathPieces ("/".intercalate front) = front

theorem AreOrdinary.front (whole : AreOrdinary absolute pieces) (inside : ahead <+: pieces) :
    AreOrdinary absolute ahead where
  ordinary piece member := whole.ordinary piece (inside.subset member)
  spelled front further := whole.spelled front (further.trans inside)

/-- The path of all pieces is spelled if the last one is a name. -/
theorem AreOrdinary.spells (whole : AreOrdinary absolute (pieces ++ [name]))
    (own : isNeutral name = false) :
    IsUsable ("/".intercalate (pieces ++ [name])) ∧
      isAbsolute ("/".intercalate (pieces ++ [name])) = absolute ∧
      pathPieces ("/".intercalate (pieces ++ [name])) = pieces ++ [name] := by
  refine whole.spelled _ List.prefix_rfl ?_
  simp [namesOf, own]

/-- Whether no file stands on the way down some names. -/
def IsClear (files : Files) (absolute : Bool) (names : List String) : Prop :=
  ∀ front content, front <+: names →
    (files.treeOf absolute).descend front ≠ some (.file content)

theorem IsClear.front (clear : IsClear files absolute names) (inside : ahead <+: names) :
    IsClear files absolute ahead :=
  fun front content further => clear front content (further.trans inside)

/-- In a directory on a clear way, a name is free if it does not lead to a directory. -/
theorem IsClear.free (clear : IsClear files absolute (names ++ [name]))
    (has_entries : files.HasEntries ⟨absolute, names⟩ entries)
    (outside : ¬ (files.treeOf absolute).HasDirectory (names ++ [name])) :
    Entries.get? entries name = none := by
  have found := Node.descend_child has_entries name
  cases there : Entries.get? entries name with
  | none => rfl
  | some node =>
      rw [there] at found
      cases node with
      | file content => exact absurd found (clear _ content List.prefix_rfl)
      | directory inner => exact absurd ⟨inner, found⟩ outside

/-- An empty directory is made where its name is free. -/
theorem makeDirectory_free (ordinary : AreOrdinary absolute (pieces ++ [name]))
    (is_name : Node.IsName name)
    (has_entries : files.HasEntries ⟨absolute, namesOf pieces⟩ entries)
    (absent : Entries.get? entries name = none) :
    ∃ made, files.makeDirectory ("/".intercalate (pieces ++ [name])) = .ok made ∧
      files.Keeps made ∧ made.HasEntries ⟨absolute, namesOf pieces ++ [name]⟩ [] := by
  rcases ordinary.spells is_name.own with ⟨usable, side, parts⟩
  have around := ordinary.front (List.prefix_append pieces [name])
  have leads := Node.leads_ordinary [] around.ordinary ⟨entries, has_entries⟩
  have makes := makeDirectory_of_leads ⟨absolute, namesOf pieces⟩ usable side.symm
    parts leads has_entries is_name absent
  rcases has_entries.put (no_directory_of_absent absent) (.directory []) with ⟨keeps, put⟩
  refine ⟨_, makes, keeps, ?_⟩
  exact (Node.descend_child put name).trans (Entries.get?_insert_self entries name _)

/-- No directory is made where the one around it is missing. -/
theorem makeDirectory_missing (ordinary : AreOrdinary absolute (pieces ++ [name]))
    (is_name : Node.IsName name) (clear : IsClear files absolute (namesOf pieces))
    (outside : ¬ (files.treeOf absolute).HasDirectory (namesOf pieces)) :
    files.makeDirectory ("/".intercalate (pieces ++ [name])) = .error .notFound := by
  rcases ordinary.spells is_name.own with ⟨usable, side, parts⟩
  have around := ordinary.front (List.prefix_append pieces [name])
  have named : name ≠ "" := by
    rintro rfl
    cases is_name.own
  have last : (pathPieces ("/".intercalate (pieces ++ [name]))).reverse.dropWhile (· = "") =
      name :: pieces.reverse := by
    rw [parts, List.reverse_append, List.reverse_singleton, List.singleton_append,
      List.dropWhile_cons_of_neg (by simp [named])]
  have followed := Node.follow_missing .start around.ordinary clear outside
    (List.cons_ne_nil "" [])
  rw [makeDirectory]
  simp only [last, List.reverse_reverse]
  rw [followPath_usable files usable, side, followed]
  rfl

theorem run_forM_concat {paths : List String} {path : String} {between made : Files}
    (makes : (paths.forM ensureDirectory).run files = (.ok (), between))
    (makes_last : between.makeDirectory path = .ok made) :
    ((paths ++ [path]).forM ensureDirectory).run files = (.ok (), made) := by
  rw [List.forM_eq_forM] at makes
  rw [List.forM_eq_forM, List.forM_append, run_bind_of_ok makes, List.forM_cons]
  rw [run_bind_of_ok (by rw [run_ensureDirectory, makes_last])]
  rfl

/--
From the inside out, the first directory that is missing in one is made, and then
those that it was missing for.
-/
theorem run_ensureNearest_missing (ordinary : AreOrdinary absolute reversed.reverse)
    (clear : IsClear files absolute (namesOf reversed.reverse))
    (outside : ¬ (files.treeOf absolute).HasDirectory (namesOf reversed.reverse))
    (missing : List String) :
    ∃ further between made,
      (ensureNearest missing (pathsOfReversed reversed)).run files =
        (.ok (further ++ missing), between) ∧
      (further.forM ensureDirectory).run between = (.ok (), made) ∧
      files.Keeps made ∧ made.HasEntries ⟨absolute, namesOf reversed.reverse⟩ [] := by
  induction reversed generalizing missing with
  | nil => exact absurd ⟨_, rfl⟩ outside
  | cons piece outer induction_hypothesis =>
      rw [List.reverse_cons] at ordinary clear outside ⊢
      have outer_ordinary := ordinary.front (List.prefix_append outer.reverse [piece])
      rw [pathsOfReversed, List.reverse_cons]
      rcases ordinary.ordinary piece (by simp) with neutral | is_name
      · have nothing : namesOf [piece] = [] := namesOf_neutral neutral []
        rw [namesOf_append, nothing, List.append_nil] at clear outside ⊢
        rw [if_pos neutral]
        exact induction_hypothesis outer_ordinary clear outside missing
      · have itself : namesOf [piece] = [piece] := namesOf_name is_name.own []
        rw [namesOf_append, itself] at clear outside ⊢
        rw [if_neg (ne_true_of_eq_false is_name.own), run_ensureNearest, run_ensureDirectory]
        by_cases around : (files.treeOf absolute).HasDirectory (namesOf outer.reverse)
        · rcases around with ⟨entries, has_entries⟩
          rcases makeDirectory_free ordinary is_name has_entries
            (clear.free has_entries outside) with ⟨made, makes, keeps, empty⟩
          refine ⟨[], made, made, ?_, rfl, keeps, empty⟩
          rw [makes]
          rfl
        · have outer_clear := clear.front (List.prefix_append (namesOf outer.reverse) [piece])
          rcases induction_hypothesis outer_ordinary outer_clear around
            ("/".intercalate (outer.reverse ++ [piece]) :: missing) with
            ⟨further, between, made, nearest, makes, keeps, has_entries⟩
          rcases makeDirectory_free ordinary is_name has_entries rfl with
            ⟨last, makes_last, keeps_last, empty⟩
          refine ⟨further ++ ["/".intercalate (outer.reverse ++ [piece])], between, last, ?_,
            run_forM_concat makes makes_last, keeps.trans keeps_last, empty⟩
          rw [makeDirectory_missing ordinary is_name outer_clear around, List.append_assoc]
          exact nearest

/-- No file stands where an ordinary path passes, and the path may be followed. -/
structure IsOpenWay (files : Files) (path : String) : Prop where
  usable : IsUsable path
  ordinary : ∀ piece ∈ pathPieces path, IsOrdinary piece
  clear : IsClear files (isAbsolute path) (namesOf (pathPieces path))

theorem intercalate_front (inside : ahead <+: pieces) (nonempty : ahead ≠ []) :
    ∃ rest, "/".intercalate pieces = "/".intercalate ahead ++ rest := by
  rcases inside with ⟨behind, rfl⟩
  by_cases last : behind = []
  · exact ⟨"", by simp [last]⟩
  · exact ⟨"/" ++ "/".intercalate behind, by
      rw [String.intercalate_append_of_ne_nil nonempty last, String.append_assoc]⟩

/-- A path spells the paths of the directories around it. -/
theorem spelled_front (usable : IsUsable path) (inside : ahead <+: pathPieces path)
    (some_names : namesOf ahead ≠ []) :
    IsUsable ("/".intercalate ahead) ∧ isAbsolute ("/".intercalate ahead) = isAbsolute path ∧
      pathPieces ("/".intercalate ahead) = ahead := by
  have nonempty : ahead ≠ [] := by
    rintro rfl
    exact some_names rfl
  have pieces : pathPieces ("/".intercalate ahead) = ahead := by
    refine pathPieces_intercalate nonempty ?_
    intro piece member
    exact no_slash_pathPieces path piece (inside.subset member)
  have some_text : "/".intercalate ahead ≠ "" := by
    intro nothing
    rw [nothing] at pieces
    rw [← pieces] at some_names
    exact some_names rfl
  rcases intercalate_front inside nonempty with ⟨rest, split⟩
  rw [intercalate_pathPieces] at split
  rw [split] at usable ⊢
  exact ⟨isUsable_front usable some_text, (isAbsolute_front some_text rest).symm, pieces⟩

theorem IsOpenWay.areOrdinary (way : IsOpenWay files path) :
    AreOrdinary (isAbsolute path) (pathPieces path) :=
  ⟨way.ordinary, fun _ inside some_names => spelled_front way.usable inside some_names⟩

/-- An ordinary path leads to its names, if a directory is there. -/
theorem IsOpenWay.leadsTo {made : Files} (way : IsOpenWay files path)
    (directory : (made.treeOf (isAbsolute path)).HasDirectory (namesOf (pathPieces path))) :
    made.LeadsTo path ⟨isAbsolute path, namesOf (pathPieces path)⟩ :=
  ⟨way.usable, rfl, Node.leads_ordinary [] way.ordinary directory⟩

/-! ### The directory around an entry -/

/-- What is neutral at the end of a path comes behind its last piece that is not. -/
theorem neutral_behind (pieces : List String) :
    ∃ behind, pieces = (pieces.reverse.dropWhile isNeutral).reverse ++ behind ∧
      ∀ piece ∈ behind, isNeutral piece = true := by
  have parts := List.takeWhile_append_dropWhile (p := isNeutral) (l := pieces.reverse)
  have all_neutral := List.all_takeWhile (p := isNeutral) (l := pieces.reverse)
  refine ⟨(pieces.reverse.takeWhile isNeutral).reverse, ?_, ?_⟩
  · rw [← List.reverse_append, parts, List.reverse_reverse]
  · intro piece member
    exact List.all_eq_true.mp all_neutral piece (List.mem_reverse.mp member)

theorem dropWhile_front (pieces : List String) :
    (pieces.reverse.dropWhile isNeutral).reverse <+: pieces := by
  rcases neutral_behind pieces with ⟨behind, whole, -⟩
  exact ⟨behind, whole.symm⟩

/-- The pieces of a path without what is neutral behind its last name. -/
theorem namesOf_dropWhile (pieces : List String) :
    namesOf (pieces.reverse.dropWhile isNeutral).reverse = namesOf pieces := by
  rcases neutral_behind pieces with ⟨behind, whole, neutral⟩
  have nothing : namesOf behind = [] := by
    refine List.filter_eq_nil_iff.mpr ?_
    intro piece member
    simp [neutral piece member]
  have split := congrArg namesOf whole
  rw [namesOf_append, nothing, List.append_nil] at split
  exact split.symm

/-- Around an entry is the path without what is neutral at its end. -/
theorem parentPath_joinPath (nonempty : path ≠ "") (own : isNeutral name = false)
    (no_slash : '/' ∉ name.toList)
    (some_names : ((pathPieces path).reverse.dropWhile isNeutral).isEmpty = false) :
    parentPath (joinPath path name) =
      "/".intercalate ((pathPieces path).reverse.dropWhile isNeutral).reverse := by
  rcases pathPieces_joinPath nonempty no_slash with ⟨pieces, either, joined⟩
  have same : pieces.reverse.dropWhile isNeutral =
      (pathPieces path).reverse.dropWhile isNeutral := by
    rcases either with same | same
    · rw [same]
    · simp [same, isNeutral]
  simp [parentPath, joined, own, same, some_names]

/--
The directories around an entry of an ordinary path are made if they are not there,
and then the path leads to an empty directory.
-/
theorem createDirectories_around (way : IsOpenWay files path) (own : isNeutral name = false)
    (no_slash : '/' ∉ name.toList) (absent : files.exists? path = false) :
    ∃ made, (createDirectories (parentPath (joinPath path name))).run files = (.ok (), made) ∧
      made.find path = .ok (.directory []) := by
  have outside : ¬ (files.treeOf (isAbsolute path)).HasDirectory (namesOf (pathPieces path)) := by
    intro directory
    have leads_to := way.leadsTo directory
    rcases leads_to.hasEntries with ⟨entries, has_entries⟩
    rw [exists?, leads_to.find has_entries] at absent
    cases absent
  have same_names := namesOf_dropWhile (pathPieces path)
  have ordinary := way.areOrdinary.front (dropWhile_front (pathPieces path))
  have parent := parentPath_joinPath way.usable.nonempty own no_slash
  have first := List.head?_dropWhile_not isNeutral (pathPieces path).reverse
  cases reversed : (pathPieces path).reverse.dropWhile isNeutral with
  | nil =>
      rw [reversed] at same_names
      rw [← same_names] at outside
      exact absurd ⟨_, rfl⟩ outside
  | cons last outer =>
      rw [reversed] at same_names ordinary parent first
      have last_own : isNeutral last = false := by simpa using first
      have spelled := ordinary
      rw [List.reverse_cons] at spelled
      rcases spelled.spells last_own with ⟨-, -, parts⟩
      rw [← List.reverse_cons] at parts
      have paths : enclosingPaths ("/".intercalate (last :: outer).reverse) =
          pathsOfReversed (last :: outer) := by
        rw [enclosingPaths, parts, List.reverse_reverse, pathsOfReversed,
          if_neg (ne_true_of_eq_false last_own)]
      have clear := way.clear
      rw [← same_names] at outside clear
      rcases run_ensureNearest_missing ordinary clear outside [] with
        ⟨front, between, made, nearest, makes, keeps, empty⟩
      rw [same_names] at empty
      rw [List.append_nil] at nearest
      refine ⟨made, ?_, (way.leadsTo ⟨[], empty⟩).find empty⟩
      rw [parent rfl, createDirectories, paths, run_bind_of_ok nearest]
      exact makes

/-- A name that is free in the working directory is an ordinary path to nothing. -/
theorem isOpenWay_name (files : Files) (is_name : IsEntryName name)
    (absent : Entries.get? files.working name = none) :
    IsOpenWay files name ∧ files.exists? name = false := by
  have pieces := pathPieces_name is_name.no_slash
  refine ⟨⟨is_name.isUsable, ?_, ?_⟩, ?_⟩
  · intro piece member
    rw [pieces, List.mem_singleton] at member
    subst member
    exact .inr is_name.toIsName
  · intro names content inside
    rw [pieces, namesOf_name is_name.own] at inside
    rw [isAbsolute_name is_name.no_slash]
    change (Node.directory files.working).descend names ≠ _
    cases names with
    | nil => simp [Node.descend]
    | cons first rest =>
        rw [(List.cons_prefix_cons.mp inside).1, Node.descend_directory_cons, absent]
        simp
  · rw [exists?, find_name files is_name, absent]
    rfl

end FileAction

end NetworkIsolation.FileSystem
