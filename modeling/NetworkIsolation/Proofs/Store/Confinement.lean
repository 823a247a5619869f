import NetworkIsolation.Proofs.FileSystem.Siblings
import NetworkIsolation.Proofs.Store.Listing

/-!
# Keys stay in the directory of the documents

A key becomes a part of a path, and whoever chooses the key must not choose where the path
leads.  What is checked of a key makes `<key>.json` the name of an entry: it has no slash,
so that it is one component, and since it ends in `.json` and begins with no dot it is none
of the components that lead elsewhere.

The path of a document is the path of the directory with this name behind it.  Wherever the
root is, in whatever tree of files, the path leads to an entry of that directory or nowhere.
Two documents are at the same place only for the same key, and the marker and the lock are
one directory further out.
-/

namespace NetworkIsolation.Store

open NetworkIsolation.FileSystem

open Files (Collide components components_joinPath joinPath_inside)
open Files (name_eq_of_collide not_collide_inside resolve_around)

variable {key : String}

theorem utf8ByteSize_documentName_le (valid : validateKey key = .ok ()) :
    (documentName key).utf8ByteSize ≤ 133 := by
  have short := (validateKey_eq_ok.mp valid).2.1
  rw [utf8ByteSize_documentName]
  simp only [maxKeyBytes] at short
  omega

/-- The key is all that stands in front of the ending. -/
theorem append_ending_eq_iff {stem : String} : stem ++ ".json" = documentName key ↔ stem = key :=
  ⟨fun same => documentName_injective same, congrArg documentName⟩

namespace Layout

/-- How a layout keeps the document of a key apart from everything else. -/
structure Confines (layout : Layout) (key : String) : Prop where
  path : layout.answerPath key = layout.answersDirectory ++ "/" ++ documentName key
  one_component : components (layout.answerPath key) =
    components layout.answersDirectory ++ [documentName key]
  same_side : isAbsolute (layout.answerPath key) = isAbsolute layout.answersDirectory
  not_dots : documentName key ∉ [".", ".."]
  visible : (documentName key).startsWith "." = false
  no_slash : '/' ∉ (documentName key).toList
  no_nul : '\x00' ∉ (documentName key).toList
  short : (documentName key).utf8ByteSize ≤ 133
  stripped : ∀ stem, stem ++ ".json" = documentName key ↔ stem = key
  has_key : keyOfFile? (documentName key) = some key
  listed : ∀ files entries content, layout.Lists files entries →
    (documentName key, .file content) ∈ entries →
    ∃ keys, layout.keys files = .ok keys ∧ key ∈ keys
  /-- In every tree of files the path leads into the directory, to the entry of that name. -/
  inside : ∀ files place found, Files.resolve files (layout.answerPath key) = .ok (place, found) →
    ∃ around entries,
      files.resolve layout.answersDirectory = .ok (around, some (.directory entries)) ∧
      place = around.child (documentName key) ∧ found = Entries.get? entries (documentName key)
  alone : ∀ other, validateKey other = .ok () →
    Collide (layout.answerPath other) (layout.answerPath key) → other = key
  apart : ∀ kept ∈ [layout.versionFile, layout.lockFile],
    ¬ Collide (layout.answerPath key) kept

/-- Every key that is accepted is confined, in every layout. -/
theorem confines_key (layout : Layout) (valid : validateKey key = .ok ()) :
    layout.Confines key := by
  have is_name := isEntryName_documentName valid
  constructor
  · exact joinPath_inside layout.root isEntryName_answers is_name.no_slash
  · exact components_joinPath layout.answersDirectory is_name.no_slash is_name.own
  · exact isAbsolute_joinPath layout.answersDirectory_ne_empty is_name.no_slash
  · have not_dot : documentName key ≠ "." := by
      intro same
      have own := is_name.own
      rw [same] at own
      cases own
    simp [not_dot, is_name.inward]
  · exact documentName_visible valid
  · exact is_name.no_slash
  · exact is_name.no_nul
  · exact utf8ByteSize_documentName_le valid
  · exact fun stem => append_ending_eq_iff
  · exact keyOfFile?_documentName valid
  · intro files entries content lists member
    exact ⟨keysIn entries, lists.keys, mem_keysIn.mpr ⟨valid, content, member⟩⟩
  · intro files place found resolved
    exact resolve_around layout.answersDirectory_ne_empty is_name resolved
  · intro other other_valid collide
    exact documentName_injective
      (name_eq_of_collide (isEntryName_documentName other_valid) is_name collide)
  · intro kept member
    rcases List.mem_pair.mp member with rfl | rfl
    · exact not_collide_inside isEntryName_answers is_name isEntryName_version
    · exact not_collide_inside isEntryName_answers is_name isEntryName_lock

/-- A key with dots and an ending of its own, below a root that leads out and in again. -/
theorem confines_key_with_ending : validateKey "v1..spaces.json" = .ok () ∧
    (⟨"/srv/../store//"⟩ : Layout).Confines "v1..spaces.json" :=
  have valid : validateKey "v1..spaces.json" = .ok () := by decide +kernel
  ⟨valid, confines_key ⟨"/srv/../store//"⟩ valid⟩

end Layout

end NetworkIsolation.Store
