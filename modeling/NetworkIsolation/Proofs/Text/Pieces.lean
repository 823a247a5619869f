import Mathlib.Data.List.DropRight
import NetworkIsolation.Proofs.Text.Splitting

/-!
# What is left of a text

Trimming drops the blank characters at the ends, so none stands at an end of what is left.
The trimmed pieces of a text are those of its parts in front of and behind any separator.
From this one equation it follows that blank characters at the ends of the text do not
count.  Nothing is left exactly if the text has separators and blank characters only.
-/

namespace NetworkIsolation.Text

variable {separator : Char} {characters front back : List Char}

/-! ## Trimming -/

/-- Whether no blank character stands at either end. -/
structure IsTrimmed (characters : List Char) : Prop where
  first : ∀ character ∈ characters.head?, isBlank character = false
  last : ∀ character ∈ characters.getLast?, isBlank character = false

theorem trimChars_eq (characters : List Char) :
    trimChars characters = (characters.dropWhile isBlank).rdropWhile isBlank := rfl

theorem trimChars_subset (characters : List Char) : trimChars characters ⊆ characters := by
  intro character member
  have in_front := (List.rdropWhile_prefix isBlank _).subset member
  exact (List.dropWhile_suffix isBlank).subset in_front

/-- Nothing is left by trimming exactly if everything is blank. -/
theorem trimChars_eq_nil_iff :
    trimChars characters = [] ↔ ∀ character ∈ characters, isBlank character = true := by
  rw [trimChars_eq, List.rdropWhile_eq_nil_iff, ← List.dropWhile_eq_nil_iff,
    List.dropWhile_idempotent, List.dropWhile_eq_nil_iff]

theorem trimChars_blank_append (blank : ∀ character ∈ front, isBlank character = true)
    (characters : List Char) : trimChars (front ++ characters) = trimChars characters := by
  rw [trimChars_eq, trimChars_eq, List.dropWhile_append_of_pos blank]

theorem trimChars_append_blank (blank : ∀ character ∈ back, isBlank character = true)
    (characters : List Char) : trimChars (characters ++ back) = trimChars characters := by
  rw [trimChars_eq, trimChars_eq, List.dropWhile_append]
  split
  · rename_i nothing
    rw [List.isEmpty_iff.mp nothing, List.dropWhile_eq_nil_iff.mpr blank]
  · have reversed : ∀ character ∈ back.reverse, isBlank character = true := by
      intro character member
      exact blank character (List.mem_reverse.mp member)
    rw [List.rdropWhile, List.reverse_append, List.dropWhile_append_of_pos reversed]
    rfl

theorem isTrimmed_trimChars (characters : List Char) : IsTrimmed (trimChars characters) := by
  rw [trimChars_eq]
  constructor
  · intro character first
    -- What is dropped at the end leaves the first character alone.
    rcases List.rdropWhile_prefix isBlank (characters.dropWhile isBlank) with ⟨dropped, whole⟩
    have in_front : (characters.dropWhile isBlank).head? = some character := by
      rw [← whole, List.head?_append, Option.mem_def.mp first, Option.some_or]
    have not_blank := List.head?_dropWhile_not isBlank characters
    rw [in_front] at not_blank
    exact not_blank
  · intro character last
    rcases List.getLast?_eq_some_iff.mp last with ⟨others, whole⟩
    have something : (characters.dropWhile isBlank).rdropWhile isBlank ≠ [] := by
      rw [whole]
      exact List.concat_ne_nil character others
    have not_blank := List.rdropWhile_last_not isBlank _ something
    simpa [whole] using not_blank

theorem trimChars_of_isTrimmed (trimmed : IsTrimmed characters) :
    trimChars characters = characters := by
  have same_front : characters.dropWhile isBlank = characters := by
    cases characters with
    | nil => rfl
    | cons character rest =>
        rw [List.dropWhile_cons_of_neg]
        exact ne_true_of_eq_false (trimmed.first character rfl)
  rw [trimChars_eq, same_front, List.rdropWhile_eq_self_iff]
  intro something
  exact ne_true_of_eq_false (trimmed.last _ (List.getLast?_eq_some_getLast something))

/-- A text is what trimming leaves of it between blank characters. -/
theorem exists_blank_around (characters : List Char) :
    ∃ front back, characters = front ++ trimChars characters ++ back ∧
      (∀ character ∈ front, isBlank character = true) ∧
      ∀ character ∈ back, isBlank character = true := by
  refine ⟨characters.takeWhile isBlank, (characters.dropWhile isBlank).rtakeWhile isBlank,
    ?_, ?_, ?_⟩
  · rw [List.append_assoc, trimChars_eq, List.rdropWhile_append_rtakeWhile,
      List.takeWhile_append_dropWhile]
  · intro character member
    exact List.mem_takeWhile_imp member
  · intro character member
    exact List.mem_rtakeWhile_imp member

/-! ## Pieces -/

/-- The trimmed pieces around a separator are those in front of it and those behind it. -/
theorem trimmedPieces_append (separator : Char) (first second : List Char) :
    trimmedPieces separator (first ++ separator :: second) =
      trimmedPieces separator first ++ trimmedPieces separator second := by
  rw [trimmedPieces, splitAt_append, List.map_append, List.filter_append]
  rfl

theorem trimmedPieces_of_not_mem (absent : separator ∉ characters) :
    trimmedPieces separator characters =
      if trimChars characters = [] then [] else [trimChars characters] := by
  rw [trimmedPieces, splitAt_of_not_mem absent, List.map_singleton, List.filter_singleton]
  cases trimChars characters <;> rfl

/-- A piece has no separator, and trimming would leave it as it is. -/
theorem of_mem_trimmedPieces {piece : List Char}
    (among : piece ∈ trimmedPieces separator characters) :
    piece ≠ [] ∧ separator ∉ piece ∧ IsTrimmed piece := by
  rcases List.mem_filter.mp among with ⟨trimmed, something⟩
  rcases List.mem_map.mp trimmed with ⟨whole, is_piece, rfl⟩
  refine ⟨?_, ?_, isTrimmed_trimChars whole⟩
  · intro nothing
    rw [nothing] at something
    cases something
  · intro inside
    exact not_mem_splitAt is_piece (trimChars_subset whole inside)

/-- Blank characters in front of a text belong to its first piece. -/
theorem trimmedPieces_blank_append (visible : isBlank separator = false)
    (blank : ∀ character ∈ front, isBlank character = true) (characters : List Char) :
    trimmedPieces separator (front ++ characters) = trimmedPieces separator characters := by
  have elsewhere : separator ∉ front := by
    intro inside
    rw [blank separator inside] at visible
    cases visible
  -- Of a text with a separator, only what stands in front of the first one is concerned.
  have first_piece : ∀ first : List Char, separator ∉ first →
      trimmedPieces separator (front ++ first) = trimmedPieces separator first := by
    intro first absent
    have both_absent : separator ∉ front ++ first := by
      rw [List.mem_append, not_or]
      exact ⟨elsewhere, absent⟩
    rw [trimmedPieces_of_not_mem both_absent, trimmedPieces_of_not_mem absent,
      trimChars_blank_append blank]
  by_cases present : separator ∈ characters
  · rcases List.eq_append_cons_of_mem present with ⟨first, rest, rfl, absent⟩
    rw [← List.append_assoc, trimmedPieces_append, trimmedPieces_append, first_piece first absent]
  · exact first_piece characters present

/-- Blank characters behind a text belong to its last piece. -/
theorem trimmedPieces_append_blank (visible : isBlank separator = false)
    (blank : ∀ character ∈ back, isBlank character = true) (characters : List Char) :
    trimmedPieces separator (characters ++ back) = trimmedPieces separator characters := by
  have elsewhere : separator ∉ back := by
    intro inside
    rw [blank separator inside] at visible
    cases visible
  have last_piece : ∀ last : List Char, separator ∉ last →
      trimmedPieces separator (last ++ back) = trimmedPieces separator last := by
    intro last absent
    have both_absent : separator ∉ last ++ back := by
      rw [List.mem_append, not_or]
      exact ⟨absent, elsewhere⟩
    rw [trimmedPieces_of_not_mem both_absent, trimmedPieces_of_not_mem absent,
      trimChars_append_blank blank]
  by_cases present : separator ∈ characters
  · rcases List.eq_append_cons_of_mem (List.mem_reverse.mpr present) with
      ⟨last, rest, reversed, absent⟩
    have whole : characters = rest.reverse ++ separator :: last.reverse := by
      rw [← List.reverse_reverse characters, reversed]
      simp
    have last_absent : separator ∉ last.reverse := by
      rwa [List.mem_reverse]
    rw [whole, List.append_assoc, List.cons_append, trimmedPieces_append, trimmedPieces_append,
      last_piece last.reverse last_absent]
  · exact last_piece characters present

/-- A text may be trimmed before it is split. -/
theorem trimmedPieces_trimChars (visible : isBlank separator = false) (characters : List Char) :
    trimmedPieces separator (trimChars characters) = trimmedPieces separator characters := by
  rcases exists_blank_around characters with ⟨front, back, whole, front_blank, back_blank⟩
  conv_rhs => rw [whole]
  rw [trimmedPieces_append_blank visible back_blank,
    trimmedPieces_blank_append visible front_blank]

/-- No piece is left exactly if there are only separators and blank characters. -/
theorem trimmedPieces_eq_nil_iff :
    trimmedPieces separator characters = [] ↔
      ∀ character ∈ characters, character = separator ∨ isBlank character = true := by
  rw [trimmedPieces, List.filter_eq_nil_iff, List.forall_mem_map]
  simp only [Bool.not_eq_true', Bool.not_eq_false, List.isEmpty_iff, trimChars_eq_nil_iff]
  constructor
  · intro blank character member
    by_cases same : character = separator
    · exact .inl same
    · rcases (exists_mem_splitAt_iff characters).mpr ⟨member, same⟩ with ⟨piece, among, inside⟩
      exact .inr (blank piece among character inside)
  · intro dropped piece among character inside
    rcases (exists_mem_splitAt_iff characters).mp ⟨piece, among, inside⟩ with ⟨member, different⟩
    exact (dropped character member).resolve_left different

end NetworkIsolation.Text
