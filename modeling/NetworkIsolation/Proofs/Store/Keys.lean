import NetworkIsolation.Proofs.FileSystem.Places
import NetworkIsolation.Proofs.Results
import NetworkIsolation.Store.File

/-!
# File names of documents

A key that is accepted names a file in every directory.  The key is found again
from the name of its document, so that different keys have different documents,
and the document is never among the hidden files.
-/

namespace NetworkIsolation.Store

open NetworkIsolation.FileSystem

/-- The name of the document of a key. -/
def documentName (key : String) : String :=
  key ++ ".json"

/-- What is checked of a key. -/
theorem validateKey_eq_ok {key : String} :
    validateKey key = .ok () ↔ key ≠ "" ∧ key.utf8ByteSize ≤ maxKeyBytes ∧
      key.startsWith "." = false ∧ ∀ character ∈ key.toList, isKeyCharacter character = true := by
  rw [validateKey]
  constructor
  · intro accepted
    split at accepted
    · cases accepted
    rename_i length
    split at accepted
    · cases accepted
    rename_i characters
    simp only [Bool.or_eq_true, String.isEmpty_iff, decide_eq_true_eq, not_or] at length
    simp only [Bool.or_eq_true, Bool.not_eq_true', not_or, Bool.not_eq_true,
      Bool.not_eq_false] at characters
    exact ⟨length.1, Nat.not_lt.mp length.2, characters.1, List.all_eq_true.mp characters.2⟩
  · rintro ⟨nonempty, short, visible, characters⟩
    have all : key.toList.all isKeyCharacter = true := List.all_eq_true.mpr characters
    rw [if_neg (by simp [nonempty, short]), if_neg (by simp [visible, all])]

section

variable {key : String}

theorem toList_documentName (key : String) :
    (documentName key).toList = key.toList ++ ['.', 'j', 's', 'o', 'n'] := by
  simp [documentName]

theorem utf8ByteSize_documentName (key : String) :
    (documentName key).utf8ByteSize = key.utf8ByteSize + 5 := by
  rw [documentName, String.utf8ByteSize_append]
  rfl

theorem documentName_injective {other : String} (same : documentName key = documentName other) :
    key = other := by
  have characters := congrArg String.toList same
  rw [toList_documentName, toList_documentName] at characters
  exact String.toList_inj.mp (List.append_cancel_right characters)

theorem not_mem_documentName {character : Char} (valid : validateKey key = .ok ())
    (unaccepted : isKeyCharacter character = false)
    (elsewhere : character ∉ ['.', 'j', 's', 'o', 'n']) :
    character ∉ (documentName key).toList := by
  rw [toList_documentName, List.mem_append, not_or]
  refine ⟨?_, elsewhere⟩
  intro member
  have accepted := (validateKey_eq_ok.mp valid).2.2.2 character member
  rw [unaccepted] at accepted
  cases accepted

/-- The document of a key may be an entry of any directory. -/
theorem isEntryName_documentName (valid : validateKey key = .ok ()) :
    IsEntryName (documentName key) := by
  have long : ∀ text : String, text.length < 5 → documentName key ≠ text := by
    rintro text short rfl
    have characters := congrArg List.length (toList_documentName key)
    rw [List.length_append, String.length_toList] at characters
    simp only [List.length_cons, List.length_nil] at characters
    omega
  refine ⟨⟨?_, long ".." (by decide), ?_⟩, ?_, ?_⟩
  · simp [isNeutral, long "" (by decide), long "." (by decide)]
  · have short := (validateKey_eq_ok.mp valid).2.1
    rw [utf8ByteSize_documentName]
    simp only [maxKeyBytes] at short
    simp only [Files.maxNameBytes]
    omega
  · exact not_mem_documentName valid (by decide) (by decide)
  · exact not_mem_documentName valid (by decide) (by decide)

theorem documentName_visible (valid : validateKey key = .ok ()) :
    (documentName key).startsWith "." = false := by
  rcases validateKey_eq_ok.mp valid with ⟨nonempty, -, visible, -⟩
  have characters : key.toList ≠ [] := by simpa using nonempty
  rw [String.startsWith_string_eq_false_iff] at visible ⊢
  rw [toList_documentName]
  cases all : key.toList with
  | nil => exact absurd all characters
  | cons first rest =>
      rw [all] at visible
      intro dot
      refine visible ?_
      rw [show (".".toList : List Char) = ['.'] from rfl, List.cons_append,
        List.cons_prefix_cons] at dot
      rw [show (".".toList : List Char) = ['.'] from rfl, List.cons_prefix_cons]
      exact ⟨dot.1, List.nil_prefix⟩

/-- A document is not named like a temporary file. -/
theorem documentName_unmarked (valid : validateKey key = .ok ()) (letters : String) :
    documentName key ≠ ".tmp" ++ letters := by
  intro same
  have visible := documentName_visible valid
  rw [String.startsWith_string_eq_false_iff, same] at visible
  exact visible ⟨"tmp".toList ++ letters.toList, by simp⟩

/-- The key of a document is found again from its name. -/
theorem keyOfFile?_documentName (valid : validateKey key = .ok ()) :
    Layout.keyOfFile? (documentName key) = some key := by
  have ending : (documentName key).endsWith ".json" = true := by
    rw [endsWith_iff, toList_documentName]
    exact List.suffix_append key.toList _
  have length : (documentName key).length - 5 = key.toList.length := by
    rw [← String.length_toList, toList_documentName]
    simp
  have taken : String.ofList ((documentName key).toList.take ((documentName key).length - 5)) =
      key := by
    rw [length, toList_documentName, List.take_left, String.ofList_toList]
  have is_key : isKey key = true := by
    rw [isKey, valid]
    rfl
  rw [Layout.keyOfFile?, if_pos ending]
  simp only [taken, if_pos is_key]

end

end NetworkIsolation.Store
