import NetworkIsolation.Json.Printer
import NetworkIsolation.Json.Scanner
import NetworkIsolation.Proofs.Results

/-!
# Numbers as they are written

The text of a number has a whole part, a fraction and an exponent.  If its parts
are proper, the scanner takes the text apart into exactly these parts, as long as
nothing follows that could belong to the number.

Every number that is printed has such a text.  A whole number in the range that
is kept exactly is read back as it was.  A double is read by rounding twice, so
what is read from its text may be another double: `Number.reread` is what is read.
-/

namespace NetworkIsolation.Json

open NetworkIsolation.Decimal

/-- Whether a number that stands in front of the text ends there. -/
def endsNumber : List Char → Bool
  | [] => true
  | character :: _ =>
    !character.isDigit && character != '.' && character != 'e' && character != 'E'

/-! ## Digits -/

/-- The digits of a whole part: a single zero, or digits that do not begin with one. -/
def IsWhole (digits : List Char) : Prop :=
  (∀ digit ∈ digits, digit.isDigit = true) ∧
    (digits = ['0'] ∨ ∃ first rest, digits = first :: rest ∧ first ≠ '0')

theorem takeWhile_digits {digits rest : List Char} (all : ∀ digit ∈ digits, digit.isDigit = true)
    (ends : rest.head?.any Char.isDigit = false) :
    (digits ++ rest).takeWhile Char.isDigit = digits := by
  rw [List.takeWhile_append_of_pos all]
  cases rest with
  | nil => simp
  | cons character rest =>
      have no_digit : character.isDigit = false := by simpa using ends
      simp [no_digit]

theorem dropWhile_digits {digits rest : List Char} (all : ∀ digit ∈ digits, digit.isDigit = true)
    (ends : rest.head?.any Char.isDigit = false) :
    (digits ++ rest).dropWhile Char.isDigit = rest := by
  rw [List.dropWhile_append_of_pos all]
  cases rest with
  | nil => simp
  | cons character rest =>
      have no_digit : character.isDigit = false := by simpa using ends
      simp [no_digit]

theorem isDigit_toDigits (number : Nat) :
    ∀ digit ∈ Nat.toDigits 10 number, digit.isDigit = true := by
  intro digit member
  exact Nat.isDigit_of_mem_toDigits (by decide) (by decide) member

/-- The digits of a positive number do not begin with a zero. -/
theorem exists_first_digit {number : Nat} (positive : 0 < number) :
    ∃ first rest, Nat.toDigits 10 number = first :: rest ∧ first ≠ '0' := by
  induction number using Nat.strongRecOn with
  | ind number induction_hypothesis =>
      by_cases small : number < 10
      · refine ⟨number.digitChar, [], Nat.toDigits_of_lt_base small, ?_⟩
        intro zero
        have code := congrArg Char.toNat zero
        rw [Nat.toNat_digitChar_of_lt_ten small] at code
        have : ('0').toNat = 48 := rfl
        omega
      · have shorter : number / 10 < number := by omega
        obtain ⟨first, rest, digits, not_zero⟩ :=
          induction_hypothesis (number / 10) shorter (by omega)
        refine ⟨first, rest ++ [(number % 10).digitChar], ?_, not_zero⟩
        rw [Nat.toDigits_of_base_le (by decide) (by omega), digits, List.cons_append]

theorem isWhole_toDigits (number : Nat) : IsWhole (Nat.toDigits 10 number) := by
  refine ⟨isDigit_toDigits number, ?_⟩
  rcases Nat.eq_zero_or_pos number with rfl | positive
  · exact .inl (Nat.toDigits_zero 10)
  · exact .inr (exists_first_digit positive)

/-! ## Parts of a number -/

namespace NumberText

/-- How a fraction is written. -/
def fractionChars : List Char → List Char
  | [] => []
  | digits => '.' :: digits

/-- How an exponent is written. -/
def exponentChars : Option (Bool × List Char) → List Char
  | none => []
  | some (negative, digits) => 'e' :: (if negative then '-' else '+') :: digits

/-- The text of a number from its parts. -/
def chars (text : NumberText) : List Char :=
  text.whole ++ (fractionChars text.fraction ++ exponentChars text.exponent)

/-- The parts of a number that can be written. -/
structure Proper (text : NumberText) : Prop where
  whole : IsWhole text.whole
  fraction : ∀ digit ∈ text.fraction, digit.isDigit = true
  exponent : ∀ negative digits, text.exponent = some (negative, digits) →
    digits ≠ [] ∧ ∀ digit ∈ digits, digit.isDigit = true

theorem scanWhole_append {digits rest : List Char} (whole : IsWhole digits)
    (ends : rest.head?.any Char.isDigit = false) (atEnd : Malformed) :
    scanWhole atEnd (digits ++ rest) = .ok (digits, rest) := by
  rcases whole with ⟨all, rfl | ⟨first, others, rfl, not_zero⟩⟩
  · cases rest with
    | nil => rfl
    | cons character rest =>
        have no_digit : character.isDigit = false := by simpa using ends
        simp [scanWhole, no_digit]
  · have first_digit : first.isDigit = true := all first List.mem_cons_self
    have others_digits : ∀ digit ∈ others, digit.isDigit = true := by
      intro digit member
      exact all digit (List.mem_cons_of_mem _ member)
    simp only [List.cons_append, scanWhole, if_neg not_zero, if_pos first_digit]
    rw [takeWhile_digits others_digits ends, dropWhile_digits others_digits ends]

theorem scanFraction_append {digits rest : List Char}
    (all : ∀ digit ∈ digits, digit.isDigit = true)
    (ends : rest.head?.any Char.isDigit = false) (no_point : rest.head? ≠ some '.')
    (atEnd : Malformed) :
    scanFraction atEnd (fractionChars digits ++ rest) = .ok (digits, rest) := by
  cases digits with
  | nil =>
      rw [fractionChars, List.nil_append]
      unfold scanFraction
      split
      · exact absurd rfl no_point
      · rfl
  | cons digit digits =>
      simp only [fractionChars, List.cons_append, scanFraction]
      rw [← List.cons_append, takeWhile_digits all ends, dropWhile_digits all ends]
      rfl

theorem scanExponent_append {exponent : Option (Bool × List Char)} {rest : List Char}
    (proper : ∀ negative digits, exponent = some (negative, digits) →
      digits ≠ [] ∧ ∀ digit ∈ digits, digit.isDigit = true)
    (ends : endsNumber rest = true) (atEnd : Malformed) :
    scanExponent atEnd (exponentChars exponent ++ rest) = .ok (exponent, rest) := by
  cases exponent with
  | none =>
      cases rest with
      | nil => rfl
      | cons character rest =>
          have no_mark : ¬ (character = 'e' ∨ character = 'E') := by
            simp [endsNumber] at ends
            simp [ends]
          simp [exponentChars, scanExponent, no_mark]
  | some written =>
      rcases written with ⟨negative, digits⟩
      rcases proper negative digits rfl with ⟨some_digits, all⟩
      have no_digit : rest.head?.any Char.isDigit = false := by
        cases rest with
        | nil => rfl
        | cons character rest =>
            simp [endsNumber] at ends
            simp [ends]
      have sign : scanExponentSign ((if negative then '-' else '+') :: digits ++ rest) =
          (negative, digits ++ rest) := by
        cases negative <;> rfl
      have not_empty : digits.isEmpty = false := by
        simpa using some_digits
      simp only [exponentChars, List.cons_append, scanExponent]
      rw [← List.cons_append, sign]
      simp only [takeWhile_digits all no_digit, dropWhile_digits all no_digit, not_empty]
      rfl

theorem head_no_digit {rest : List Char} (ends : endsNumber rest = true) :
    rest.head?.any Char.isDigit = false := by
  cases rest with
  | nil => rfl
  | cons character rest =>
      simp [endsNumber] at ends
      simp [ends]

theorem head_no_point {rest : List Char} (ends : endsNumber rest = true) :
    rest.head? ≠ some '.' := by
  cases rest with
  | nil => simp
  | cons character rest =>
      simp [endsNumber] at ends
      simp [ends]

/-- The text of a number is taken apart into its parts. -/
theorem scanNumberText_append {text : NumberText} {rest : List Char} (proper : text.Proper)
    (ends : endsNumber rest = true) (atEnd : Malformed) :
    scanNumberText atEnd (text.chars ++ rest) = .ok (text, rest) := by
  rcases text with ⟨whole, fraction, exponent⟩
  have exponent_no_digit :
      (exponentChars exponent ++ rest).head?.any Char.isDigit = false := by
    cases exponent with
    | none => exact head_no_digit ends
    | some written => rfl
  have exponent_no_point : (exponentChars exponent ++ rest).head? ≠ some '.' := by
    cases exponent with
    | none => exact head_no_point ends
    | some written => simp [exponentChars]
  have fraction_no_digit :
      (fractionChars fraction ++ (exponentChars exponent ++ rest)).head?.any Char.isDigit =
        false := by
    cases fraction with
    | nil => exact exponent_no_digit
    | cons digit digits => rfl
  simp only [chars, List.append_assoc, scanNumberText]
  rw [scanWhole_append proper.whole fraction_no_digit]
  simp only [ok_bind]
  rw [scanFraction_append proper.fraction exponent_no_digit exponent_no_point]
  simp only [ok_bind]
  rw [scanExponent_append proper.exponent ends]
  rfl

end NumberText

theorem scanNumber_append {text : NumberText} {rest : List Char} (proper : text.Proper)
    (ends : endsNumber rest = true) (negative : Bool) :
    scanNumber negative (text.chars ++ rest) =
      (text.toNumber negative rest).map fun number => (number, rest) := by
  rw [scanNumber, NumberText.scanNumberText_append proper ends]
  rfl

/-! ## Whole numbers -/

theorem le_ofDigitChars (digits : List Char) (start : Nat) :
    start ≤ Nat.ofDigitChars 10 digits start := by
  induction digits generalizing start with
  | nil => simp
  | cons digit digits induction_hypothesis =>
      rw [Nat.ofDigitChars_cons]
      have later := induction_hypothesis (10 * start + (digit.toNat - '0'.toNat))
      omega

/-- Digits whose number stays within the limit are all absorbed. -/
theorem absorbDigits_of_le {limit : Nat} (digits : List Char) {start : Nat}
    (fits : Nat.ofDigitChars 10 digits start ≤ limit) :
    absorbDigits limit start digits = (Nat.ofDigitChars 10 digits start, digits.length) := by
  induction digits generalizing start with
  | nil => simp [absorbDigits]
  | cons digit digits induction_hypothesis =>
      rw [Nat.ofDigitChars_cons, Nat.mul_comm 10 start] at fits ⊢
      have within_limit : start * 10 + digitValue digit ≤ limit :=
        Nat.le_trans (le_ofDigitChars digits _) fits
      simp only [absorbDigits]
      rw [if_pos within_limit, digitValue, induction_hypothesis fits]
      rfl

/-- A whole number without fraction and exponent. -/
def wholeText (number : Nat) : NumberText :=
  ⟨Nat.toDigits 10 number, [], none⟩

theorem wholeText_proper (number : Nat) : (wholeText number).Proper := by
  constructor
  · exact isWhole_toDigits number
  · intro digit member
    cases member
  · intro negative digits written
    cases written

theorem wholeText_chars (number : Nat) : (wholeText number).chars = Nat.toDigits 10 number := by
  simp [wholeText, NumberText.chars, NumberText.fractionChars, NumberText.exponentChars]

theorem significand_wholeText {number : Nat} (fits : number ≤ maxInteger) :
    (wholeText number).significand = (number, 0) := by
  have digits_fit : Nat.ofDigitChars 10 (Nat.toDigits 10 number) 0 ≤ maxInteger := by
    rw [Nat.ofDigitChars_ten_toDigits]
    exact fits
  simp only [NumberText.significand, wholeText]
  rw [absorbDigits_of_le _ digits_fit, Nat.ofDigitChars_ten_toDigits]
  simp [absorbDigits]

/-- A whole number that fits is read as itself. -/
theorem toNumber_wholeText {number : Nat} (fits : number ≤ maxInteger) (rest : List Char) :
    (wholeText number).toNumber false rest = .ok (.integer number) := by
  simp only [NumberText.toNumber, significand_wholeText fits]
  rfl

/-- A negative whole number is read as itself down to the smallest one of 64 bits. -/
theorem toNumber_wholeText_negative {number : Nat} (positive : 0 < number)
    (fits : number ≤ maxNegated) (rest : List Char) :
    (wholeText number).toNumber true rest = .ok (.integer (-(number : Int))) := by
  have fits_unsigned : number ≤ maxInteger := by
    rw [maxInteger, UInt64.size]
    rw [maxNegated] at fits
    omega
  have whole : ((wholeText number).isWhole && decide True) = true := by rfl
  have not_double : ¬ (number = 0 || maxNegated < number) = true := by
    simp only [Bool.or_eq_true, decide_eq_true_eq]
    omega
  simp only [NumberText.toNumber, significand_wholeText fits_unsigned]
  rw [if_pos whole, if_neg (by decide), if_neg not_double]

end NetworkIsolation.Json
