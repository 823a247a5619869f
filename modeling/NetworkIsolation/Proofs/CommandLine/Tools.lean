import NetworkIsolation.CommandLine.Diagnosis
import NetworkIsolation.Proofs.FileSystem.Places

/-!
# Where tools are found

Whether a tool is there is decided by the exit status of the program `which`, which belongs
to the host and not to this library.  `FindsTool` is the decision as it is made, with nothing
assumed of the answers.  `HasTool` is what the decision is for, a program that the search path
leads to.  The two agree on a host where `which` does what it is documented to do, and this is
the hypothesis `WhichSearches`.  A host without `which` finds no tool that is named without a
slash, whatever stands on its search path.
-/

namespace NetworkIsolation.CommandLine

open NetworkIsolation.Backend NetworkIsolation.FileSystem NetworkIsolation.Program

/--
A tool is found under a name.  A name with a slash leads to a file, and for any other one
`which` is started and ends with status zero.  It cannot be started with a NUL in the name.
-/
def FindsTool (host : Host) (name : String) : Prop :=
  if '/' ∈ name.toList then host.files.isFile name = true
  else '\x00' ∉ name.toList ∧
    ∃ output errors, host.which name = .ok ⟨.exited 0, output, errors⟩

/-- A tool is where its name says: at its path, or in a directory of the search path. -/
def HasTool (host : Host) (name : String) : Prop :=
  if '/' ∈ name.toList then host.files.isFile name = true
  else ∃ path ∈ host.candidates name, ∃ program, host.programAt? path = some program

/--
`which` as it is documented: it can be started, and it ends with status zero exactly for the
names under which the search path leads to a program.
-/
structure WhichSearches (host : Host) : Prop where
  starts : ∀ name, '\x00' ∉ name.toList → ∃ finished, host.which name = .ok finished
  finds : ∀ name, '/' ∉ name.toList → ∀ finished, host.which name = .ok finished →
    (finished.ending = .exited 0 ↔ HasTool host name)

section

variable {host : Host} {name : String}

theorem toolFound_iff :
    toolFound host.files.isFile host.which name = true ↔ FindsTool host name := by
  rw [toolFound, FindsTool]
  by_cases slash : '/' ∈ name.toList
  · simp [slash]
  · have passable : isPassable ["which", name] = true ↔ '\x00' ∉ name.toList := by
      simp [isPassable]
    have ended : endedWell (host.which name) = true ↔
        ∃ output errors, host.which name = .ok ⟨.exited 0, output, errors⟩ := by
      cases host.which name with
      | error cause => simp [endedWell]
      | ok finished =>
          rcases finished with ⟨ending, output, errors⟩
          simp [endedWell]
    simp [slash, passable, ended]

/-- A path with a NUL leads nowhere, so no program has one in its name. -/
theorem no_nul_of_hasTool (no_slash : '/' ∉ name.toList) (has_tool : HasTool host name) :
    '\x00' ∉ name.toList := by
  rw [HasTool, if_neg no_slash] at has_tool
  rcases has_tool with ⟨path, candidate, program, found⟩
  have same_place := List.find?_some found
  have usable : IsUsable path := by
    rw [Host.isSamePlace] at same_place
    split at same_place
    · rename_i resolved
      exact Files.isUsable_of_followPath resolved
    · cases same_place
  have relative : name.contains '/' = false := by simpa using no_slash
  rw [Host.candidates, relative] at candidate
  split at candidate
  · cases candidate
  · simp only [Bool.false_eq_true, if_false, List.mem_map] at candidate
    rcases candidate with ⟨directory, -, rfl⟩
    by_cases here : directory = ""
    · rw [here, Files.joinPath_empty] at usable
      exact usable.no_nul
    · rcases joinPath_append here no_slash with ⟨between, -, joined⟩
      have no_nul := usable.no_nul
      rw [joined, String.toList_append, List.mem_append, not_or] at no_nul
      exact no_nul.2

theorem findsTool_iff_hasTool (searches : WhichSearches host) :
    FindsTool host name ↔ HasTool host name := by
  by_cases slash : '/' ∈ name.toList
  · rw [FindsTool, HasTool, if_pos slash, if_pos slash]
  · rw [FindsTool, if_neg slash]
    constructor
    · rintro ⟨-, output, errors, answered⟩
      exact (searches.finds name slash _ answered).mp rfl
    · intro has_tool
      have no_nul := no_nul_of_hasTool slash has_tool
      rcases searches.starts name no_nul with ⟨⟨ending, output, errors⟩, answered⟩
      have well : ending = .exited 0 := (searches.finds name slash _ answered).mpr has_tool
      rw [well] at answered
      exact ⟨no_nul, output, errors, answered⟩

/-- Without `which` no tool is found that is named without a slash. -/
theorem not_findsTool_of_error (no_slash : '/' ∉ name.toList) {cause : SystemError}
    (refused : host.which name = .error cause) : ¬ FindsTool host name := by
  rw [FindsTool, if_neg no_slash, refused]
  rintro ⟨-, output, errors, impossible⟩
  cases impossible

end

/-! ## A host with the tools -/

/-- What `which` does on a host: it prints the first path at which there is a program. -/
def searchedBy (host : Host) (name : String) : Except SystemError Finished :=
  match (host.candidates name).find? fun path => (host.programAt? path).isSome with
  | some path => .ok ⟨.exited 0, (path ++ "\n").toUTF8.toList, []⟩
  | none => .ok ⟨.exited 1, [], []⟩

/-- The answers of a search are those of `which`, as it does not look at them itself. -/
theorem whichSearches_of_searchedBy (host : Host) :
    WhichSearches { host with which := searchedBy host } where
  starts name _ := by
    change ∃ finished, searchedBy host name = .ok finished
    rw [searchedBy]
    split <;> exact ⟨_, rfl⟩
  finds name no_slash finished answered := by
    change searchedBy host name = .ok finished at answered
    change _ ↔ HasTool host name
    rw [HasTool, if_neg no_slash]
    rw [searchedBy] at answered
    split at answered
    · rename_i path found
      have runs : (host.programAt? path).isSome = true :=
        (List.find?_eq_some_iff_append.mp found).1
      cases answered
      refine iff_of_true rfl ⟨path, List.mem_of_find?_eq_some found, ?_⟩
      exact Option.isSome_iff_exists.mp runs
    · rename_i nothing
      cases answered
      refine iff_of_false (by simp) ?_
      rintro ⟨path, candidate, program, found⟩
      refine List.find?_eq_none.mp nothing path candidate ?_
      rw [found]
      rfl

end NetworkIsolation.CommandLine
