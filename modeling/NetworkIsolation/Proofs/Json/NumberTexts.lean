import NetworkIsolation.Proofs.Json.Doubles

/-!
# Texts that tell numbers apart

The text of a number is taken apart into a sign and parts in only one way, so two numbers
with the same text have the same sign and the same parts.  A whole number has neither a
fraction nor an exponent, and a double has one of them.  Whole numbers with the same
digits are the same.  Doubles with the same parts own the decimal that they stand for, and
only one double does.
-/

namespace NetworkIsolation.Json

open NetworkIsolation.Decimal

theorem eq_of_numberText_append {first second : NumberText} {rest further : List Char}
    (proper : first.Proper) (other_proper : second.Proper) (ends : endsNumber rest = true)
    (other_ends : endsNumber further = true)
    (same : first.chars ++ rest = second.chars ++ further) : first = second ∧ rest = further := by
  have scanned := NumberText.scanNumberText_append proper ends .invalidNumber
  rw [same, NumberText.scanNumberText_append other_proper other_ends] at scanned
  cases scanned
  exact ⟨rfl, rfl⟩

/-- Texts with a minus sign or without one are told apart, and so is what follows them. -/
theorem eq_of_signed_append {negative other_negative : Bool} {first second : NumberText}
    {rest further : List Char} (proper : first.Proper) (other_proper : second.Proper)
    (ends : endsNumber rest = true) (other_ends : endsNumber further = true)
    (same : (if negative then ['-'] else []) ++ first.chars ++ rest =
      (if other_negative then ['-'] else []) ++ second.chars ++ further) :
    negative = other_negative ∧ first = second ∧ rest = further := by
  rcases head_chars proper with ⟨digit, digits, chars, is_digit⟩
  rcases head_chars other_proper with ⟨other_digit, other_digits, other_chars, other_is_digit⟩
  -- A text that begins with a digit has no minus sign in front.
  cases negative with
  | false =>
      cases other_negative with
      | false => exact ⟨rfl, eq_of_numberText_append proper other_proper ends other_ends same⟩
      | true =>
          rw [chars] at same
          cases (List.cons.inj same).1
          cases is_digit
  | true =>
      cases other_negative with
      | false =>
          rw [other_chars] at same
          cases (List.cons.inj same).1
          cases other_is_digit
      | true =>
          exact ⟨rfl, eq_of_numberText_append proper other_proper ends other_ends
            (List.cons.inj same).2⟩

/-- Behind the texts of two numbers the same follows, and the texts are the same. -/
theorem eq_of_chars_append {first second : Number} {rest further : List Char}
    (ends : endsNumber rest = true) (other_ends : endsNumber further = true)
    (same : first.chars ++ rest = second.chars ++ further) :
    first.chars = second.chars ∧ rest = further := by
  rcases exists_text first with ⟨negative, text, proper, written⟩
  rcases exists_text second with ⟨other_negative, other_text, other_proper, other_written⟩
  rw [written, other_written] at same ⊢
  rcases eq_of_signed_append proper other_proper ends other_ends same with ⟨rfl, rfl, same_rest⟩
  exact ⟨rfl, same_rest⟩

/-! ## Numbers with the same text -/

theorem eq_of_signed_eq {negative other_negative : Bool} {first second : NumberText}
    (proper : first.Proper) (other_proper : second.Proper)
    (same : (if negative then ['-'] else []) ++ first.chars =
      (if other_negative then ['-'] else []) ++ second.chars) :
    negative = other_negative ∧ first = second := by
  rw [← List.append_nil (_ ++ first.chars), ← List.append_nil (_ ++ second.chars)] at same
  rcases eq_of_signed_append proper other_proper rfl rfl same with ⟨same_sign, same_text, -⟩
  exact ⟨same_sign, same_text⟩

theorem eq_of_wholeText_eq {first second : Nat} (same : wholeText first = wholeText second) :
    first = second := by
  have digits := congrArg (fun text => Nat.ofDigitChars 10 text.whole 0) same
  simpa only [wholeText, Nat.ofDigitChars_ten_toDigits] using digits

theorem integer_chars_ne_double (integer : Int) (double : Double) :
    (Number.integer integer).chars ≠ (Number.double double).chars := by
  intro same
  rcases double_text double with ⟨text, stands_for, written⟩
  rw [integer_text, written] at same
  rcases eq_of_signed_eq (wholeText_proper _) stands_for.proper same with ⟨-, same_text⟩
  have not_whole := stands_for.not_whole
  rw [← same_text] at not_whole
  cases not_whole

/-- Two numbers with the same text are the same. -/
theorem Number.IsKept.eq_of_chars_eq {first second : Number} (kept : first.IsKept)
    (other_kept : second.IsKept) (same : first.chars = second.chars) : first = second := by
  cases first with
  | integer value =>
      cases second with
      | integer other =>
          rw [integer_text, integer_text] at same
          rcases eq_of_signed_eq (wholeText_proper _) (wholeText_proper _) same with
            ⟨same_sign, same_text⟩
          have same_size := eq_of_wholeText_eq same_text
          have same_value : value = other := by
            rw [decide_eq_decide] at same_sign
            omega
          rw [same_value]
      | double other => exact absurd same (integer_chars_ne_double value other)
  | double value =>
      cases second with
      | integer other => exact absurd same.symm (integer_chars_ne_double other value)
      | double other =>
          rcases double_text value with ⟨text, stands_for, written⟩
          rcases double_text other with ⟨other_text, other_stands_for, other_written⟩
          rw [written, other_written] at same
          rcases eq_of_signed_eq stands_for.proper other_stands_for.proper same with
            ⟨same_sign, rfl⟩
          have same_units := Double.eq_of_shortestValue_eq kept other_kept
            (stands_for.same.symm.trans other_stands_for.same)
          rcases value with ⟨negative, units⟩
          rcases other with ⟨other_negative, other_units⟩
          cases same_sign
          cases same_units
          rfl

end NetworkIsolation.Json
