import NetworkIsolation.Proofs.FileSystem.Frames
import NetworkIsolation.Proofs.FileSystem.OrdinaryPaths

/-!
# Entries beside each other

Paths that are joined to the same base have their entries in the same directory, and
what is put under the name of one of them is not seen under the names of the others.

Such paths have their last component for themselves, and they lead to one place only if
they have the same name.  A path that is joined to that of an entry leads to none of their
places, since it leads further inside.

A directory that is missing shows as much as an empty one.  So making the directories
around an entry is not seen either, unless they open a way that was closed: behind
`new/..` there may be anything once `new` is there.
-/

namespace NetworkIsolation.FileSystem

namespace Files

variable {files made : Files} {base path name other : String} {location : Location}
  {entries : List (String × Node)} {content : ByteArray}

/-! ## Putting a file -/

theorem find_of_unusable (unusable : ¬ IsUsable path) :
    (files.find path).toOption = Option.none := by
  cases found : files.find path with
  | error cause => rfl
  | ok node =>
      rcases resolve_of_find found with ⟨location, resolved⟩
      exact absurd (isUsable_of_followPath resolved) unusable

/-- What is put under one name is not found under another one. -/
theorem IsBase.find_sibling (is_base : files.IsBase base location)
    (has_entries : files.HasEntries location entries) (is_other : IsEntryName other)
    (different : name ≠ other)
    (no_directory : ∀ inner, Entries.get? entries name ≠ some (.directory inner)) (node : Node) :
    ((files.putNode (location.child name) node).find (joinPath base other)).toOption =
      (files.find (joinPath base other)).toOption := by
  rcases has_entries.put no_directory node with ⟨keeps, put⟩
  by_cases usable : IsUsable (joinPath base other)
  · rw [(is_base.keeps keeps).find_entry put is_other usable,
      is_base.find_entry has_entries is_other usable, Entries.get?_insert_of_ne _ _ different]
  · rw [find_of_unusable usable, find_of_unusable usable]

/-- Where the path of an entry leads if it leads anywhere. -/
theorem isBase_of_resolve {place : Location} {found : Option Node} (is_name : IsEntryName name)
    (resolved : files.resolve (joinPath base name) = .ok (place, found)) :
    ∃ location entries, files.IsBase base location ∧ files.HasEntries location entries ∧
      place = location.child name ∧ found = Entries.get? entries name := by
  rcases isBase_of_resolve_entry is_name.no_slash resolved with ⟨location, is_base⟩
  rcases is_base.hasEntries with ⟨entries, has_entries⟩
  have again := is_base.resolve_entry has_entries is_name (isUsable_of_followPath resolved)
  rw [resolved] at again
  cases again
  exact ⟨location, entries, is_base, has_entries, rfl, rfl⟩

theorem find_sibling_of_putFile (is_name : IsEntryName name) (is_other : IsEntryName other)
    (different : name ≠ other) (put : files.putFile (joinPath base name) content = .ok made) :
    (made.find (joinPath base other)).toOption = (files.find (joinPath base other)).toOption := by
  rcases putFile_eq_ok put with ⟨place, found, resolved, no_directory, rfl⟩
  rcases isBase_of_resolve is_name resolved with
    ⟨location, entries, is_base, has_entries, rfl, rfl⟩
  exact is_base.find_sibling has_entries is_other different no_directory _

theorem find_sibling_of_openFile (is_name : IsEntryName name) (is_other : IsEntryName other)
    (different : name ≠ other) (opened : files.openFile (joinPath base name) = .ok made) :
    (made.find (joinPath base other)).toOption = (files.find (joinPath base other)).toOption := by
  rcases openFile_eq_ok opened with ⟨place, found, resolved, ⟨-, rfl⟩ | ⟨rfl, rfl⟩⟩
  · rfl
  · rcases isBase_of_resolve is_name resolved with
      ⟨location, entries, is_base, has_entries, rfl, absent⟩
    exact is_base.find_sibling has_entries is_other different
      (no_directory_of_absent absent.symm) _

/-- The last piece of the path of an entry is its name. -/
theorem getLast?_pathPieces_joinPath (no_slash : '/' ∉ name.toList) :
    (pathPieces (joinPath base name)).getLast? = some name := by
  by_cases empty : base = ""
  · rw [empty, joinPath_empty, pathPieces_name no_slash]
    rfl
  · rcases pathPieces_joinPath empty no_slash with ⟨pieces, -, parts⟩
    rw [parts, List.getLast?_concat]

/-- Where directories were made for the path of an entry, it leads to a directory. -/
theorem leadsTo_of_createDirectories (is_name : IsEntryName name)
    (success : (FileAction.createDirectories (joinPath base name)).run files = (.ok (), made)) :
    ∃ location, made.LeadsTo (joinPath base name) location := by
  rcases (FileAction.isMade_of_createDirectories success).2 with nothing | leads
  · rcases List.getLast?_eq_some_iff.mp
      (getLast?_pathPieces_joinPath is_name.no_slash : (pathPieces (joinPath base name)).getLast? =
        some name) with ⟨pieces, parts⟩
    simp [enclosingPaths, parts, pathsOfReversed, is_name.own] at nothing
  · exact leads

/-! ## Places of entries -/

/-- The components of a path: its pieces without those that name nothing of their own. -/
def components (path : String) : List String :=
  namesOf (pathPieces path)

theorem components_joinPath (base : String) (no_slash : '/' ∉ name.toList)
    (own : isNeutral name = false) :
    components (joinPath base name) = components base ++ [name] := by
  by_cases empty : base = ""
  · rw [empty, joinPath_empty, components, pathPieces_name no_slash, namesOf_name own]
    rfl
  · rcases pathPieces_joinPath empty no_slash with ⟨pieces, either, parts⟩
    have around : namesOf (pathPieces base) = namesOf pieces := by
      rcases either with same | same
      · rw [same]
      · rw [same, namesOf_append]
        exact List.append_nil _
    rw [components, components, parts, around, namesOf_append, namesOf_name own]
    rfl

/-- Entries of a base are looked up in one directory only. -/
theorem IsBase.unique {another : Location} (is_base : files.IsBase base location)
    (is_other : files.IsBase base another) : location = another := by
  rcases is_base with ⟨rfl, rfl⟩ | leads_to
  · rcases is_other with ⟨-, rfl⟩ | leads_to
    · rfl
    · exact absurd rfl leads_to.usable.nonempty
  · rcases is_other with ⟨empty, -⟩ | leads_too
    · exact absurd empty leads_to.usable.nonempty
    · rcases leads_to.hasEntries with ⟨entries, has_entries⟩
      rcases leads_too.hasEntries with ⟨others, has_others⟩
      have resolved := leads_to.resolve has_entries
      rw [leads_too.resolve has_others] at resolved
      cases resolved
      rfl

/-- The path of an entry leads into the directory around it, if it leads anywhere. -/
theorem resolve_around {place : Location} {found : Option Node} (nonempty : base ≠ "")
    (is_name : IsEntryName name)
    (resolved : files.resolve (joinPath base name) = .ok (place, found)) :
    ∃ around entries, files.resolve base = .ok (around, some (.directory entries)) ∧
      place = around.child name ∧ found = Entries.get? entries name := by
  rcases isBase_of_resolve is_name resolved with ⟨around, entries, is_base, has_entries, rfl, rfl⟩
  rcases is_base with ⟨empty, -⟩ | leads_to
  · exact absurd empty nonempty
  · exact ⟨around, entries, leads_to.resolve has_entries, rfl, rfl⟩

/-- Whether two paths have the same components, or lead to one place in some tree of files. -/
def Collide (path other : String) : Prop :=
  components path = components other ∨
    ∃ (files : Files) (place : Location) (found found_too : Option Node),
      files.resolve path = .ok (place, found) ∧ files.resolve other = .ok (place, found_too)

theorem name_eq_of_collide (is_name : IsEntryName name) (is_other : IsEntryName other)
    (collide : Collide (joinPath base name) (joinPath base other)) : name = other := by
  rcases collide with same | ⟨files, place, found, found_too, resolved, resolved_too⟩
  · rw [components_joinPath base is_name.no_slash is_name.own,
      components_joinPath base is_other.no_slash is_other.own] at same
    exact List.singleton_inj.mp (List.append_cancel_left same)
  · rcases isBase_of_resolve is_name resolved with ⟨location, -, -, -, rfl, -⟩
    rcases isBase_of_resolve is_other resolved_too with ⟨another, -, -, -, same, -⟩
    have names := congrArg Location.names same
    simp only [Location.child] at names
    exact List.singleton_inj.mp (List.append_inj' names rfl).2

/-- What is inside an entry does not collide with what is beside the entry. -/
theorem not_collide_inside {inner : String} (is_inner : IsEntryName inner)
    (is_name : IsEntryName name) (is_other : IsEntryName other) :
    ¬ Collide (joinPath (joinPath base inner) name) (joinPath base other) := by
  rintro (same | ⟨files, place, found, found_too, resolved, resolved_too⟩)
  · rw [components_joinPath _ is_name.no_slash is_name.own,
      components_joinPath base is_inner.no_slash is_inner.own,
      components_joinPath base is_other.no_slash is_other.own] at same
    have lengths := congrArg List.length same
    simp only [List.length_append, List.length_singleton] at lengths
    omega
  · rcases resolve_around (joinPath_ne_empty base is_inner.isUsable.nonempty) is_name resolved with
      ⟨middle, entries, inward, rfl, -⟩
    rcases isBase_of_resolve is_inner inward with ⟨location, -, is_base, -, rfl, -⟩
    rcases isBase_of_resolve is_other resolved_too with ⟨another, -, is_base_too, -, same, -⟩
    -- Both are found from one directory, but the first is one name further down.
    cases is_base.unique is_base_too
    have lengths := congrArg (fun place => place.names.length) same
    simp only [Location.child, List.length_append, List.length_singleton] at lengths
    omega

/-- Behind the path of an entry a slash goes in front of the next name. -/
theorem joinPath_inside (base : String) {inner : String} (is_inner : IsEntryName inner)
    (no_slash : '/' ∉ name.toList) :
    joinPath (joinPath base inner) name = joinPath base inner ++ "/" ++ name := by
  rcases joinPath_cases (joinPath_ne_empty base is_inner.isUsable.nonempty) no_slash with
    ⟨outer, parts, -⟩ | joined
  · have last : (pathPieces (joinPath base inner)).getLast? = some inner :=
      getLast?_pathPieces_joinPath is_inner.no_slash
    have closed : outer ++ "/" = outer ++ "/" ++ "" := by simp
    have nothing : pathPieces "" = [""] := rfl
    rw [parts, closed, pathPieces_append, nothing, List.getLast?_concat] at last
    exact absurd (Option.some.inj last).symm is_inner.isUsable.nonempty
  · exact joined

/-! ## What is shown -/

/-- What stands under a path; where nothing is found, nothing stands, as in an empty directory. -/
def shown (files : Files) (path : String) : Node :=
  (files.find path).toOption.getD (.directory [])

theorem shown_of_find {node : Node} (found : files.find path = .ok node) :
    files.shown path = node := by
  rw [shown, found]
  rfl

theorem shown_of_absent (absent : (files.find path).toOption = Option.none) :
    files.shown path = .directory [] := by
  rw [shown, absent]
  rfl

theorem shown_congr (same : (made.find path).toOption = (files.find path).toOption) :
    made.shown path = files.shown path := by
  rw [shown, shown, same]

/-- An entry is found in what is shown under its base. -/
theorem find_entry_eq_shown (nonempty : base ≠ "") (is_name : IsEntryName name)
    (usable : IsUsable (joinPath base name)) :
    (files.find (joinPath base name)).toOption = (files.shown base).descend [name] := by
  by_cases leads : ∃ location, files.LeadsTo base location
  · rcases leads with ⟨location, leads_to⟩
    rcases leads_to.hasEntries with ⟨entries, has_entries⟩
    rw [leads_to.find_entry has_entries is_name usable,
      shown_of_find (leads_to.find has_entries), Node.descend_directory_cons]
    cases Entries.get? entries name <;> rfl
  · have absent : (files.find (joinPath base name)).toOption = Option.none := by
      cases found : files.find (joinPath base name) with
      | error cause => rfl
      | ok node => exact absurd (leadsTo_of_find_entry nonempty is_name.no_slash found) leads
    rw [absent]
    cases found : files.find base with
    | error cause =>
        rw [shown, found]
        rfl
    | ok node =>
        rw [shown_of_find found]
        cases node with
        | file content => rfl
        | directory entries =>
            rcases leadsTo_of_find found with ⟨location, leads_to, -⟩
            exact absurd ⟨location, leads_to⟩ leads

/-- Without a directory around it, nothing is shown under the path of an entry. -/
theorem shown_entry_of_no_base (is_name : IsEntryName name)
    (no_base : ¬ ∃ location, files.IsBase base location) :
    files.shown (joinPath base name) = .directory [] := by
  refine shown_of_absent ?_
  cases found : files.find (joinPath base name) with
  | error cause => rfl
  | ok node =>
      rcases resolve_of_find found with ⟨place, resolved⟩
      exact absurd (isBase_of_resolve_entry is_name.no_slash resolved) no_base

end Files

/-! ## Making directories -/

namespace FileAction

open Files hiding none

variable {files : Files} {base name other path : String} {location : Location}

/-- A directory that is made among others shows no more than before. -/
theorem shown_of_createDirectories_entry (is_base : files.IsBase base location)
    (is_name : IsEntryName name) :
    (((createDirectories (joinPath base name)).run files).2).shown (joinPath base name) =
      files.shown (joinPath base name) := by
  rcases is_base.hasEntries with ⟨entries, has_entries⟩
  by_cases usable : IsUsable (joinPath base name)
  · have finds := is_base.find_entry has_entries is_name usable
    cases there : Entries.get? entries name with
    | none =>
        rw [there] at finds
        have put := (has_entries.put (no_directory_of_absent there) (.directory []))
        have found := (is_base.keeps put.1).find_entry put.2 is_name usable
        rw [Entries.get?_insert_self] at found
        rw [createDirectories_entry is_base has_entries is_name usable there,
          shown_of_find (toOption_eq_some.mp found), shown_of_absent finds]
    | some node =>
        rw [there] at finds
        have found := toOption_eq_some.mp finds
        cases node with
        | directory inner =>
            rcases leadsTo_of_find found with ⟨place, leads_to, -⟩
            rw [createDirectories_of_isMade (.inr ⟨place, leads_to⟩)]
        | file content =>
            rcases resolve_of_find found with ⟨place, resolved⟩
            have still := (actsAt_createDirectories (joinPath base name) files).find_file resolved
              (by simp)
            rw [shown_of_find still, shown_of_find found]
  · rw [shown, shown, find_of_unusable usable, find_of_unusable usable]

/-! ### Around an entry -/

/-- Neutral pieces at the end lead nowhere else. -/
theorem leads_of_neutral_behind {tree : Node} {names final front behind : List String}
    (leads : tree.Leads names (front ++ behind) final)
    (neutral : ∀ piece ∈ behind, isNeutral piece = true) : tree.Leads names front final := by
  induction behind generalizing front with
  | nil =>
      rw [List.append_nil] at leads
      exact leads
  | cons piece behind induction_hypothesis =>
      rw [List.append_cons] at leads
      have further := induction_hypothesis leads
        fun other member => neutral other (List.mem_cons_of_mem piece member)
      rcases further.of_append with ⟨middle, inward, last⟩
      cases last.of_neutral (neutral piece List.mem_cons_self)
      exact inward

/-- The directories around an entry are there if its base is. -/
theorem isMade_around (is_base : files.IsBase base location) (own : isNeutral name = false)
    (no_slash : '/' ∉ name.toList) : IsMade files (parentPath (joinPath base name)) := by
  rcases is_base with ⟨rfl, -⟩ | leads_to
  · have nowhere : parentPath (joinPath "" name) = "" := by
      simp [joinPath_empty, parentPath, pathPieces_name no_slash, own, isAbsolute_name no_slash]
    rw [nowhere]
    exact .inl rfl
  · have nonempty := leads_to.usable.nonempty
    rcases neutral_behind (pathPieces base) with ⟨behind, whole, neutral⟩
    have last_own := List.head?_dropWhile_not isNeutral (pathPieces base).reverse
    have parent := parentPath_joinPath nonempty own no_slash
    have front := dropWhile_front (pathPieces base)
    cases reversed : (pathPieces base).reverse.dropWhile isNeutral with
    | nil =>
        -- Only the root and the working directory have no name.
        rcases pathPieces_joinPath nonempty no_slash with ⟨pieces, either, joined⟩
        have neutral_pieces : pieces.reverse.dropWhile isNeutral = [] := by
          rcases either with same | same
          · rw [← same, reversed]
          · rw [same] at reversed
            simpa [isNeutral] using reversed
        have around : parentPath (joinPath base name) =
            if isAbsolute (joinPath base name) then "/" else "" := by
          simp [parentPath, joined, own, neutral_pieces]
        rw [around]
        split <;> exact .inl rfl
    | cons last outer =>
        rw [reversed] at whole last_own parent front
        have some_names : namesOf (last :: outer).reverse ≠ [] := by
          have last_named : isNeutral last = false := by simpa using last_own
          simp [namesOf_append, namesOf_name last_named]
        rcases spelled_front leads_to.usable front some_names with ⟨usable, side, parts⟩
        have leads := leads_to.leads
        rw [whole] at leads
        rw [parent rfl]
        refine .inr ⟨location, usable, leads_to.side.trans side.symm, ?_⟩
        rw [parts]
        exact leads_of_neutral_behind leads neutral

/-- Pieces that do not step out lead to their names. -/
theorem ordinary_of_leads {tree : Node} {names final pieces : List String}
    (leads : tree.Leads names pieces final) (inward : ".." ∉ pieces) :
    (∀ piece ∈ pieces, IsOrdinary piece) ∧ final = names ++ namesOf pieces := by
  induction leads with
  | here directory => simp [namesOf]
  | @stay names final pieces piece neutral further induction_hypothesis =>
      rcases induction_hypothesis fun member => inward (List.mem_cons_of_mem piece member) with
        ⟨ordinary, rfl⟩
      rw [namesOf_neutral neutral]
      exact ⟨List.forall_mem_cons.mpr ⟨.inl neutral, ordinary⟩, rfl⟩
  | up directory further induction_hypothesis => exact absurd List.mem_cons_self inward
  | @down names final pieces piece is_name further induction_hypothesis =>
      rcases induction_hypothesis fun member => inward (List.mem_cons_of_mem piece member) with
        ⟨ordinary, rfl⟩
      rw [namesOf_name is_name.own]
      exact ⟨List.forall_mem_cons.mpr ⟨.inr is_name, ordinary⟩, by simp⟩

/-- A way that does not step out and opens without a file being touched was open before. -/
theorem isOpenWay_of_leadsTo {made : Files} (leads_to : made.LeadsTo path location)
    (inward : ".." ∉ pathPieces path) (differs : DiffersAt [] [] files made) :
    IsOpenWay files path := by
  rcases ordinary_of_leads leads_to.leads inward with ⟨ordinary, final⟩
  refine ⟨leads_to.usable, ordinary, ?_⟩
  intro front content inside found
  have directory := leads_to.leads.hasDirectory_final
  rw [final, List.nil_append, leads_to.side] at directory
  rcases inside with ⟨rest, names⟩
  rw [← names] at directory
  rcases Node.hasDirectory_around directory with ⟨entries, reached⟩
  rcases differs.kept ⟨isAbsolute path, front⟩ content found with kept | ⟨other, member, -⟩
  · cases reached.symm.trans kept
  · cases member

/-- Whether a path is there already or does not step out of a directory. -/
def IsAnchored (files : Files) (path : String) : Prop :=
  files.exists? path = true ∨ ".." ∉ pathPieces path

/-- Making the directories around an entry shows nothing under the names beside it. -/
theorem shown_of_createDirectories_around (is_name : IsEntryName name)
    (is_other : IsEntryName other) (anchored : IsAnchored files base) :
    (((createDirectories (parentPath (joinPath base name))).run files).2).shown
        (joinPath base other) = files.shown (joinPath base other) := by
  by_cases before : ∃ location, files.IsBase base location
  · rcases before with ⟨location, is_base⟩
    rw [createDirectories_of_isMade (isMade_around is_base is_name.own is_name.no_slash)]
  rw [shown_entry_of_no_base is_other before]
  have differs := actsAt_createDirectories (parentPath (joinPath base name)) files
  by_cases after : ∃ location,
      ((createDirectories (parentPath (joinPath base name))).run files).2.IsBase base location
  · rcases after with ⟨location, ⟨rfl, -⟩ | leads_to⟩
    · exact absurd ⟨_, isBase_empty files⟩ before
    have absent : files.exists? base = false := by
      rw [← Bool.not_eq_true]
      intro there
      rcases find_of_exists? there with ⟨node, found⟩
      cases node with
      | directory entries =>
          rcases leadsTo_of_find found with ⟨place, leads, -⟩
          exact before ⟨place, .inr leads⟩
      | file content =>
          rcases resolve_of_find found with ⟨place, resolved⟩
          have still := differs.find_file resolved (by simp)
          rcases leads_to.hasEntries with ⟨entries, has_entries⟩
          rw [leads_to.find has_entries] at still
          cases still
    have inward : ".." ∉ pathPieces base := anchored.resolve_left (by simp [absent])
    have way := isOpenWay_of_leadsTo leads_to inward differs
    rcases createDirectories_around way is_name.own is_name.no_slash absent with
      ⟨made, run, empty⟩
    rw [run]
    refine shown_of_absent ?_
    by_cases usable : IsUsable (joinPath base other)
    · rw [find_entry_eq_shown leads_to.usable.nonempty is_other usable, shown_of_find empty]
      rfl
    · exact find_of_unusable usable
  · exact shown_entry_of_no_base is_other after

end FileAction

end NetworkIsolation.FileSystem
