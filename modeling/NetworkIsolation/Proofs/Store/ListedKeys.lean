import NetworkIsolation.Proofs.Store.Contents

/-!
# The keys in a directory

A listing has each name of a directory once, and different documents have different keys.
So the keys of the documents differ as well, and sorting them leaves them strictly
increasing.
-/

namespace NetworkIsolation.Store

open NetworkIsolation.FileSystem

theorem isKey_iff {key : String} : isKey key = true ↔ validateKey key = .ok () := by
  rw [isKey]
  cases validateKey key with
  | error cause => simp
  | ok checked => simp

/-- A file has a key exactly if it is named like the document of one. -/
theorem keyOfFile?_eq_some {name key : String} :
    Layout.keyOfFile? name = some key ↔ validateKey key = .ok () ∧ name = documentName key := by
  constructor
  · intro found
    rw [Layout.keyOfFile?] at found
    split at found
    · rename_i ending
      rcases endsWith_iff.mp ending with ⟨stem, stem_then_ending⟩
      have length : name.length - 5 = stem.length := by
        rw [← String.length_toList, ← stem_then_ending, List.length_append]
        rfl
      rw [length, ← stem_then_ending, List.take_left] at found
      simp only at found
      split at found
      · rename_i accepted
        cases found
        refine ⟨isKey_iff.mp accepted, String.toList_inj.mp ?_⟩
        rw [toList_documentName, String.toList_ofList, ← stem_then_ending]
        rfl
      · cases found
    · cases found
  · rintro ⟨valid, rfl⟩
    exact keyOfFile?_documentName valid

namespace Layout

variable {layout : Layout} {files : Files} {entries : List (String × Node)} {key : String}

/-! ## Sorted keys -/

/-- Distinct names in order are strictly increasing. -/
theorem pairwise_lt_mergeSort {names : List String} (distinct : names.Nodup) :
    (names.mergeSort fun first second => first ≤ second).Pairwise (· < ·) := by
  have transitive : ∀ first second third : String, decide (first ≤ second) = true →
      decide (second ≤ third) = true → decide (first ≤ third) = true :=
    fun _ _ _ below above => decide_eq_true
      (String.le_trans (of_decide_eq_true below) (of_decide_eq_true above))
  have total : ∀ first second : String,
      (decide (first ≤ second) || decide (second ≤ first)) = true := by
    simpa using String.le_total
  have ordered := List.pairwise_mergeSort transitive total names
  have still_distinct := (List.mergeSort_perm names
    fun first second => decide (first ≤ second)).nodup_iff.mpr distinct
  refine (ordered.and still_distinct).imp ?_
  rintro first second ⟨below, different⟩
  exact Std.lt_of_le_of_ne (of_decide_eq_true below) different

/-- The keys of the visible files. -/
def keysIn (entries : List (String × Node)) : List String :=
  ((visibleNames entries).filterMap keyOfFile?).mergeSort fun first second => first ≤ second

/-- The document of a key has a name with a text, and no other name has the same. -/
theorem getD_nameText?_eq_documentName {name : String} (valid : validateKey key = .ok ()) :
    (nameText? name).getD "" = documentName key ↔ name = documentName key := by
  have is_name := isEntryName_documentName valid
  constructor
  · intro named
    rw [nameText?] at named
    split at named
    · exact absurd named.symm is_name.isUsable.nonempty
    · exact named
  · rintro rfl
    rw [nameText?, if_neg is_name.no_nul]
    rfl

theorem mem_keysIn : key ∈ keysIn entries ↔
    validateKey key = .ok () ∧ ∃ content, (documentName key, .file content) ∈ entries := by
  rw [keysIn, List.mem_mergeSort, List.mem_filterMap]
  constructor
  · rintro ⟨text, listed, has_key⟩
    rcases keyOfFile?_eq_some.mp has_key with ⟨valid, named⟩
    rcases List.mem_map.mp (List.mem_filter.mp listed).1 with ⟨⟨name, node⟩, is_file, texts⟩
    rcases List.mem_filter.mp is_file with ⟨member, is_file⟩
    have same_name := (getD_nameText?_eq_documentName valid).mp (texts.trans named)
    cases node with
    | directory inner => cases is_file
    | file content => exact ⟨valid, content, same_name ▸ member⟩
  · rintro ⟨valid, content, member⟩
    refine ⟨documentName key, List.mem_filter.mpr ⟨List.mem_map.mpr ⟨_,
      List.mem_filter.mpr ⟨member, rfl⟩, ?_⟩, ?_⟩, keyOfFile?_documentName valid⟩
    · exact (getD_nameText?_eq_documentName valid).mpr rfl
    · rw [documentName_visible valid]
      rfl

/--
The keys are strictly increasing, because the names in the directory are distinct.  The
texts of the names need not be, as every name without a text counts as empty.
-/
theorem keysIn_increasing (distinct : (entries.map Prod.fst).Nodup) :
    (keysIn entries).Pairwise (· < ·) := by
  refine pairwise_lt_mergeSort (List.Pairwise.filterMap keyOfFile? ?_ (R := fun text other =>
    ∀ key, keyOfFile? text = some key → keyOfFile? other ≠ some key) ?_)
  · rintro text other apart key has_key same other_key rfl
    exact apart key has_key other_key
  · refine List.Pairwise.filter _ (List.pairwise_map.mpr ?_)
    refine (List.pairwise_map.mp distinct).filter _ |>.imp ?_
    intro entry other different key has_key other_key
    rcases keyOfFile?_eq_some.mp has_key with ⟨valid, named⟩
    have same := (getD_nameText?_eq_documentName valid).mp named
    have other_same := (getD_nameText?_eq_documentName valid).mp
      (keyOfFile?_eq_some.mp other_key).2
    exact different (same.trans other_same.symm)

/-! ## What is listed -/

/-- What the directory of the documents lists; one that is not there lists nothing. -/
def Lists (layout : Layout) (files : Files) (entries : List (String × Node)) : Prop :=
  files.listDirectory layout.answersDirectory = .ok entries ∨
    (files.exists? layout.answersDirectory = false ∧ entries = [])

theorem listDirectory_eq_ok {path : String} : files.listDirectory path = .ok entries ↔
    ∃ inner, files.find path = .ok (.directory inner) ∧ entries = Entries.firsts inner := by
  rw [Files.listDirectory, bind_eq_ok]
  constructor
  · rintro ⟨⟨content⟩ | ⟨inner⟩, found, listed⟩
    · cases listed
    · cases listed
      exact ⟨inner, found, rfl⟩
  · rintro ⟨inner, found, rfl⟩
    exact ⟨_, found, rfl⟩

theorem Lists.distinct (lists : layout.Lists files entries) : (entries.map Prod.fst).Nodup := by
  rcases lists with listed | ⟨-, rfl⟩
  · rcases listDirectory_eq_ok.mp listed with ⟨inner, -, rfl⟩
    exact Entries.nodup_firsts inner
  · exact List.nodup_nil

theorem Lists.keys (lists : layout.Lists files entries) :
    layout.keys files = .ok (keysIn entries) := by
  rcases lists with listed | ⟨absent, rfl⟩
  · rcases listDirectory_eq_ok.mp listed with ⟨inner, found, -⟩
    rw [Layout.keys, visibleFiles]
    simp only [exists?_of_find found, if_true, listed]
    rfl
  · rw [Layout.keys, visibleFiles]
    simp only [absent]
    rfl

end Layout

end NetworkIsolation.Store
