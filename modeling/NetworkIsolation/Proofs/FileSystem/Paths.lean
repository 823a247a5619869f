import NetworkIsolation.FileSystem.Tree
import NetworkIsolation.Proofs.Text.Splitting

/-!
# Paths of entries

The path of an entry of a directory has the pieces of the path of the directory
and the name behind them.  A slash at the end of the path of the directory makes
one empty piece, which the name replaces.  Pieces without slashes are found again
in the path that they are joined to.
-/

namespace NetworkIsolation.FileSystem

open NetworkIsolation.Text

theorem pathPieces_append (first second : String) :
    pathPieces (first ++ "/" ++ second) = pathPieces first ++ pathPieces second := by
  have characters : (first ++ "/" ++ second).toList = first.toList ++ '/' :: second.toList := by
    simp
  rw [pathPieces, characters, splitAt_append, List.map_append]
  rfl

theorem pathPieces_name {name : String} (no_slash : '/' ∉ name.toList) :
    pathPieces name = [name] := by
  rw [pathPieces, splitAt_of_not_mem no_slash]
  simp

theorem endsWith_iff {text ending : String} :
    text.endsWith ending = true ↔ ending.toList <:+ text.toList := by
  rw [← String.endsWith_toSlice, String.Slice.endsWith_string_iff, String.copy_toSlice]

/-! ## Paths from their pieces -/

theorem no_slash_pathPieces (path : String) : ∀ piece ∈ pathPieces path, '/' ∉ piece.toList := by
  intro piece member
  rcases List.mem_map.mp member with ⟨characters, among, rfl⟩
  rw [String.toList_ofList]
  exact not_mem_splitAt among

theorem pathPieces_intercalate {pieces : List String} (some_pieces : pieces ≠ [])
    (no_slash : ∀ piece ∈ pieces, '/' ∉ piece.toList) :
    pathPieces ("/".intercalate pieces) = pieces := by
  induction pieces with
  | nil => exact absurd rfl some_pieces
  | cons piece pieces induction_hypothesis =>
      by_cases last : pieces = []
      · subst last
        rw [String.intercalate_singleton]
        exact pathPieces_name (no_slash piece List.mem_cons_self)
      · rw [String.intercalate_cons_of_ne_nil last, pathPieces_append,
          pathPieces_name (no_slash piece List.mem_cons_self), induction_hypothesis last]
        · rfl
        · intro other member
          exact no_slash other (List.mem_cons_of_mem piece member)

theorem intercalate_pathPieces (path : String) : "/".intercalate (pathPieces path) = path := by
  have whole : ∀ characters : List Char,
      "/".intercalate ((splitAt '/' characters).map String.ofList) = String.ofList characters := by
    intro characters
    induction characters with
    | nil => rfl
    | cons character rest induction_hypothesis =>
        rw [splitAt]
        cases parts : splitAt '/' rest with
        | nil => exact absurd parts (splitAt_ne_nil '/' rest)
        | cons first pieces =>
            rw [parts] at induction_hypothesis
            by_cases same : character = '/'
            · rw [if_pos same, List.map_cons, String.intercalate_cons_of_ne_nil (by simp),
                induction_hypothesis, same, ← String.toList_inj]
              simp
            · rw [if_neg same]
              cases pieces with
              | nil =>
                  rw [List.map_cons, List.map_nil, String.intercalate_singleton] at *
                  rw [← String.toList_inj] at *
                  simp_all
              | cons second pieces =>
                  rw [List.map_cons, String.intercalate_cons_of_ne_nil (by simp)] at *
                  rw [← String.toList_inj] at *
                  simp_all
  rw [pathPieces, whole, String.ofList_toList]

/-! ## Paths of entries -/

/-- Whether a path may be followed at all. -/
structure IsUsable (path : String) : Prop where
  no_nul : '\x00' ∉ path.toList
  nonempty : path ≠ ""
  short : path.utf8ByteSize ≤ Files.maxPathBytes

section

variable {path base name : String}

theorem isUsable_front {rest : String} (usable : IsUsable (path ++ rest)) (nonempty : path ≠ "") :
    IsUsable path := by
  have no_nul := usable.no_nul
  have short := usable.short
  rw [String.toList_append, List.mem_append, not_or] at no_nul
  rw [String.utf8ByteSize_append] at short
  exact ⟨no_nul.1, nonempty, by omega⟩

theorem isAbsolute_front (nonempty : path ≠ "") (rest : String) :
    isAbsolute (path ++ rest) = isAbsolute path := by
  rw [Bool.eq_iff_iff, isAbsolute, isAbsolute, String.startsWith_string_iff,
    String.startsWith_string_iff, String.toList_append]
  cases characters : path.toList with
  | nil => exact absurd (String.toList_eq_nil_iff.mp characters) nonempty
  | cons first others => simp [List.cons_prefix_cons]

theorem isAbsolute_name (no_slash : '/' ∉ name.toList) : isAbsolute name = false := by
  rw [isAbsolute, String.startsWith_string_eq_false_iff]
  rintro ⟨rest, characters⟩
  refine no_slash ?_
  rw [← characters]
  exact List.mem_append_left rest (List.mem_singleton_self '/')

theorem joinPath_ne_empty (base : String) (some_name : name ≠ "") : joinPath base name ≠ "" := by
  rw [joinPath]
  split
  · exact some_name
  split <;> simp [some_name]

theorem joinPath_cases (nonempty : base ≠ "") (no_slash : '/' ∉ name.toList) :
    (∃ outer, base = outer ++ "/" ∧ joinPath base name = outer ++ "/" ++ name) ∨
      joinPath base name = base ++ "/" ++ name := by
  have relative := isAbsolute_name no_slash
  have some_base : base.isEmpty = false := String.isEmpty_eq_false_iff.mpr nonempty
  rw [joinPath, relative, some_base]
  by_cases slash : base.endsWith "/" = true
  · rw [if_neg (by decide), if_pos slash]
    rcases endsWith_iff.mp slash with ⟨outer, characters⟩
    have parts : base = String.ofList outer ++ "/" := by
      rw [← String.toList_inj, ← characters]
      simp
    exact .inl ⟨String.ofList outer, parts, by rw [← parts]⟩
  · rw [if_neg (by decide), if_neg slash]
    exact .inr rfl

theorem pathPieces_joinPath (nonempty : base ≠ "") (no_slash : '/' ∉ name.toList) :
    ∃ pieces, (pathPieces base = pieces ∨ pathPieces base = pieces ++ [""]) ∧
      pathPieces (joinPath base name) = pieces ++ [name] := by
  rcases joinPath_cases nonempty no_slash with ⟨outer, parts, joined⟩ | joined
  · refine ⟨pathPieces outer, .inr ?_, ?_⟩
    · have closed : outer ++ "/" = outer ++ "/" ++ "" := by simp
      rw [parts, closed, pathPieces_append]
      rfl
    · rw [joined, pathPieces_append, pathPieces_name no_slash]
  · refine ⟨pathPieces base, .inl rfl, ?_⟩
    rw [joined, pathPieces_append, pathPieces_name no_slash]

theorem joinPath_append (nonempty : base ≠ "") (no_slash : '/' ∉ name.toList) :
    ∃ between, (between = "" ∨ between = "/") ∧ joinPath base name = base ++ between ++ name := by
  rcases joinPath_cases nonempty no_slash with ⟨outer, parts, joined⟩ | joined
  · refine ⟨"", .inl rfl, ?_⟩
    rw [joined, parts]
    simp
  · exact ⟨"/", .inr rfl, joined⟩

theorem isAbsolute_joinPath (nonempty : base ≠ "") (no_slash : '/' ∉ name.toList) :
    isAbsolute (joinPath base name) = isAbsolute base := by
  rcases joinPath_append nonempty no_slash with ⟨between, -, joined⟩
  rw [joined, String.append_assoc, isAbsolute_front nonempty]

theorem utf8ByteSize_joinPath_le (nonempty : base ≠ "") (no_slash : '/' ∉ name.toList) :
    (joinPath base name).utf8ByteSize ≤ base.utf8ByteSize + 1 + name.utf8ByteSize := by
  rcases joinPath_append nonempty no_slash with ⟨between, either, joined⟩
  have narrow : between.utf8ByteSize ≤ 1 := by
    rcases either with rfl | rfl <;> decide
  rw [joined, String.utf8ByteSize_append, String.utf8ByteSize_append]
  omega

theorem isUsable_joinPath (usable : IsUsable base) (no_slash : '/' ∉ name.toList)
    (no_nul : '\x00' ∉ name.toList)
    (short : base.utf8ByteSize + 1 + name.utf8ByteSize ≤ Files.maxPathBytes) :
    IsUsable (joinPath base name) := by
  rcases joinPath_append usable.nonempty no_slash with ⟨between, either, joined⟩
  have nothing : '\x00' ∉ between.toList := by
    rcases either with rfl | rfl <;> decide
  constructor
  · rw [joined]
    simp [usable.no_nul, nothing, no_nul]
  · rw [joined]
    simp [usable.nonempty]
  · exact Nat.le_trans (utf8ByteSize_joinPath_le usable.nonempty no_slash) short

end

end NetworkIsolation.FileSystem
