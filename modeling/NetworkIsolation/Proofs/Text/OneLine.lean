import NetworkIsolation.Proofs.Text.Pieces
import NetworkIsolation.Text.OneLine

/-!
# Texts of one line

A text is on one line if no line break is in it.  Texts on one line can be put
behind each other, and `oneLine` puts every text on one line.

A carriage return in front of a line break is blank, and so is a last line without
characters.  What `oneLine` joins are therefore the trimmed pieces between the line breaks,
and the pieces of two texts with a line break between them are those of the first and then
those of the second.  Joined pieces begin and end as the first and the last of them do,
and if no line break is in them, they are one trimmed piece themselves.
-/

namespace NetworkIsolation.Text

/-- Whether a text has no line break. -/
def IsOneLine (text : String) : Prop :=
  '\n' ∉ text.toList

instance (text : String) : Decidable (IsOneLine text) :=
  inferInstanceAs (Decidable ('\n' ∉ text.toList))

@[simp]
theorem isOneLine_append {first second : String} :
    IsOneLine (first ++ second) ↔ IsOneLine first ∧ IsOneLine second := by
  simp [IsOneLine]

/-! ## Joined pieces -/

section

variable {separator piece : List Char} {pieces : List (List Char)} {character : Char}

theorem mem_joinWith (member : character ∈ joinWith separator pieces) :
    character ∈ separator ∨ ∃ piece ∈ pieces, character ∈ piece := by
  fun_induction joinWith separator pieces with
  | case1 => cases member
  | case2 piece => exact .inr ⟨piece, List.mem_cons_self, member⟩
  | case3 piece pieces _ induction_hypothesis =>
      rw [List.append_assoc, List.mem_append, List.mem_append] at member
      rcases member with in_first | in_separator | later
      · exact .inr ⟨piece, List.mem_cons_self, in_first⟩
      · exact .inl in_separator
      · rcases induction_hypothesis later with in_separator | ⟨other, among, inside⟩
        · exact .inl in_separator
        · exact .inr ⟨other, List.mem_cons_of_mem _ among, inside⟩

theorem joinWith_cons (others : pieces ≠ []) :
    joinWith separator (piece :: pieces) = piece ++ separator ++ joinWith separator pieces := by
  cases pieces with
  | nil => exact absurd rfl others
  | cons _ _ => rfl

theorem joinWith_append {second : List (List Char)} (some_first : pieces ≠ [])
    (some_second : second ≠ []) :
    joinWith separator (pieces ++ second) =
      joinWith separator pieces ++ separator ++ joinWith separator second := by
  induction pieces with
  | nil => exact absurd rfl some_first
  | cons piece rest induction_hypothesis =>
      cases rest with
      | nil => exact joinWith_cons some_second
      | cons next rest =>
          rw [List.cons_append, joinWith_cons (by simp), joinWith_cons (by simp),
            induction_hypothesis (by simp)]
          simp only [List.append_assoc]

theorem joinWith_eq_nil_iff (nonempty : ∀ piece ∈ pieces, piece ≠ []) :
    joinWith separator pieces = [] ↔ pieces = [] := by
  fun_cases joinWith separator pieces with
  | case1 => simp
  | case2 piece => simpa using nonempty piece
  | case3 piece pieces _ =>
      have something := nonempty piece List.mem_cons_self
      simp [something]

theorem isTrimmed_joinWith
    (pieces_good : ∀ piece ∈ pieces, piece ≠ [] ∧ IsTrimmed piece) :
    IsTrimmed (joinWith separator pieces) := by
  fun_induction joinWith separator pieces with
  | case1 => exact ⟨by simp, by simp⟩
  | case2 piece => exact (pieces_good piece List.mem_cons_self).2
  | case3 piece pieces several induction_hypothesis =>
      rcases pieces_good piece List.mem_cons_self with ⟨something, trimmed⟩
      have later_good : ∀ other ∈ pieces, other ≠ [] ∧ IsTrimmed other := by
        intro other among
        exact pieces_good other (List.mem_cons_of_mem piece among)
      have others : pieces ≠ [] := by
        rintro rfl
        exact several rfl
      have something_later : joinWith separator pieces ≠ [] := by
        intro nothing
        exact others ((joinWith_eq_nil_iff fun other among => (later_good other among).1).mp
          nothing)
      constructor
      · rw [List.append_assoc, List.head?_append_of_ne_nil _ something]
        exact trimmed.first
      · rw [List.getLast?_append_of_ne_nil _ something_later]
        exact (induction_hypothesis later_good).last

end

/-! ## Lines -/

theorem trimChars_withoutReturn (line : List Char) :
    trimChars (withoutReturn line) = trimChars line := by
  rw [withoutReturn]
  split
  · rename_i last
    rcases List.getLast?_eq_some_iff.mp last with ⟨front, rfl⟩
    rw [List.dropLast_concat, trimChars_append_blank]
    intro character member
    rw [List.mem_singleton.mp member]
    rfl
  · rfl

/-- The lines with anything on them are the trimmed pieces between the line breaks. -/
theorem oneLineChars_eq (characters : List Char) :
    oneLineChars characters = joinWith [';', ' '] (trimmedPieces '\n' characters) := by
  rw [oneLineChars, lines, trimmedPieces]
  rcases List.eq_nil_or_concat' (splitAt '\n' characters) with nothing | ⟨ended, last, pieces⟩
  · exact absurd nothing (splitAt_ne_nil '\n' characters)
  have same_lines : (ended.map withoutReturn).map trimChars = ended.map trimChars := by
    rw [List.map_map]
    exact List.map_congr_left fun line _ => trimChars_withoutReturn line
  rw [pieces]
  simp only [List.dropLast_concat, List.getLast?_concat, Option.toList_some, List.map_append,
    List.filter_append, same_lines, List.map_singleton]
  cases last <;> rfl

theorem toList_oneLine (message : String) :
    (oneLine message).toList = joinWith [';', ' '] (trimmedPieces '\n' message.toList) := by
  rw [oneLine, String.toList_ofList, oneLineChars_eq]

/-- A diagnostic that was collapsed is on one line. -/
@[simp]
theorem isOneLine_oneLine (message : String) : IsOneLine (oneLine message) := by
  intro broken
  rw [toList_oneLine] at broken
  rcases mem_joinWith broken with in_separator | ⟨piece, among, inside⟩
  · revert in_separator
    decide
  · exact (of_mem_trimmedPieces among).2.1 inside

theorem isTrimmed_oneLine (message : String) : IsTrimmed (oneLine message).toList := by
  rw [toList_oneLine]
  apply isTrimmed_joinWith
  intro piece among
  rcases of_mem_trimmedPieces among with ⟨something, -, trimmed⟩
  exact ⟨something, trimmed⟩

theorem oneLine_eq_empty_iff_trimmedPieces {message : String} :
    oneLine message = "" ↔ trimmedPieces '\n' message.toList = [] := by
  rw [← String.toList_eq_nil_iff, toList_oneLine, joinWith_eq_nil_iff]
  intro piece among
  exact (of_mem_trimmedPieces among).1

theorem oneLine_eq_empty_iff {message : String} :
    oneLine message = "" ↔ ∀ character ∈ message.toList, isBlank character = true := by
  rw [oneLine_eq_empty_iff_trimmedPieces, trimmedPieces_eq_nil_iff]
  have break_blank : isBlank '\n' = true := rfl
  constructor
  · intro blank character member
    rcases blank character member with rfl | is_blank
    · exact break_blank
    · exact is_blank
  · intro blank character member
    exact .inr (blank character member)

/-- A trimmed text of one line is its own only piece. -/
theorem oneLine_of_isTrimmed {message : String} (one_line : IsOneLine message)
    (trimmed : IsTrimmed message.toList) : oneLine message = message := by
  rw [← String.toList_inj, toList_oneLine, trimmedPieces_of_not_mem one_line,
    trimChars_of_isTrimmed trimmed]
  split
  · rename_i nothing
    rw [nothing]
    rfl
  · rfl

theorem oneLine_append_lines (first second : String) :
    oneLine (first ++ "\n" ++ second) =
      if oneLine second = "" then oneLine first
      else if oneLine first = "" then oneLine second
      else oneLine first ++ "; " ++ oneLine second := by
  have pieces : trimmedPieces '\n' (first ++ "\n" ++ second).toList =
      trimmedPieces '\n' first.toList ++ trimmedPieces '\n' second.toList := by
    rw [← trimmedPieces_append]
    simp
  simp only [oneLine_eq_empty_iff_trimmedPieces]
  rw [← String.toList_inj, toList_oneLine, pieces]
  by_cases nothing_second : trimmedPieces '\n' second.toList = []
  · rw [if_pos nothing_second, nothing_second, List.append_nil, toList_oneLine]
  rw [if_neg nothing_second]
  by_cases nothing_first : trimmedPieces '\n' first.toList = []
  · rw [if_pos nothing_first, nothing_first, List.nil_append, toList_oneLine]
  rw [if_neg nothing_first, joinWith_append nothing_first nothing_second, String.toList_append,
    String.toList_append, toList_oneLine, toList_oneLine]
  rfl

/-- Of the lines of a text, those with anything on them are left, each of them in its place. -/
theorem oneLine_intercalate (messages : List String) :
    oneLine ("\n".intercalate messages) =
      "; ".intercalate ((messages.map oneLine).filter fun line => line ≠ "") := by
  induction messages with
  | nil => rfl
  | cons message rest induction_hypothesis =>
      by_cases last : rest = []
      · subst last
        rw [String.intercalate_singleton, List.map_singleton, List.filter_singleton]
        by_cases nothing : oneLine message = ""
        · simp [nothing]
        · simp [nothing]
      rw [String.intercalate_cons_of_ne_nil last, oneLine_append_lines, induction_hypothesis,
        List.map_cons, List.filter_cons]
      generalize kept : (rest.map oneLine).filter (fun line => line ≠ "") = lines
      cases lines with
      | nil =>
          by_cases nothing : oneLine message = ""
          · simp [nothing]
          · simp [nothing]
      | cons line others =>
          have visible : line ≠ "" := by
            have among : line ∈ (rest.map oneLine).filter fun line => line ≠ "" := by
              rw [kept]
              exact List.mem_cons_self
            exact of_decide_eq_true (List.mem_filter.mp among).2
          have something : "; ".intercalate (line :: others) ≠ "" := by
            cases others with
            | nil => rwa [String.intercalate_singleton]
            | cons _ _ => simp [String.intercalate_cons_of_ne_nil, visible]
          rw [if_neg something]
          by_cases nothing : oneLine message = ""
          · simp [nothing]
          · simp [nothing, String.intercalate_cons_of_ne_nil]

/-! ## Collapsing diagnostics -/

/--
What a function that puts diagnostics on one line has to do with them.  The lines of a
diagnostic behind another come behind those of the other, with a separator only if both of
them have any.
-/
structure CollapsesLines (collapse : String → String) : Prop where
  one_line : ∀ message, IsOneLine (collapse message)
  trimmed : ∀ message, IsTrimmed (collapse message).toList
  idempotent : ∀ message, collapse (collapse message) = collapse message
  /-- What is on one line already, without blanks around it, is left as it is. -/
  left_alone : ∀ message, IsOneLine message → IsTrimmed message.toList → collapse message = message
  empty_iff : ∀ message,
    collapse message = "" ↔ ∀ character ∈ message.toList, isBlank character = true
  lines : ∀ first second,
    collapse (first ++ "\n" ++ second) =
      if collapse second = "" then collapse first
      else if collapse first = "" then collapse second
      else collapse first ++ "; " ++ collapse second
  all_lines : ∀ messages : List String,
    collapse ("\n".intercalate messages) =
      "; ".intercalate ((messages.map collapse).filter fun line => line ≠ "")

theorem collapsesLines_oneLine : CollapsesLines oneLine where
  one_line := isOneLine_oneLine
  trimmed := isTrimmed_oneLine
  idempotent message := oneLine_of_isTrimmed (isOneLine_oneLine message) (isTrimmed_oneLine message)
  left_alone _ := oneLine_of_isTrimmed
  empty_iff _ := oneLine_eq_empty_iff
  lines := oneLine_append_lines
  all_lines := oneLine_intercalate

example : oneLine " ERROR subnet in use\r\n\n\tretry later\r" =
    "ERROR subnet in use; retry later" := by decide

end NetworkIsolation.Text
