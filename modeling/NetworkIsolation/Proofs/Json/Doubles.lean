import NetworkIsolation.Proofs.Decimal.Shortest
import NetworkIsolation.Proofs.Json.Numbers
import NetworkIsolation.Proofs.Results

/-!
# Doubles as they are written

The digits of the shortest decimal do not begin with a zero, so the text of a double is
always one that a scanner takes apart, and it stands for the number that the digits stand
for.  Whether the double is read back from it is another matter: what is read is rounded
twice.  But no other double has the same text.
-/

namespace NetworkIsolation.Decimal

/-- Digits that can be written: they do not begin with a zero, unless they stand for zero. -/
structure Digits.Proper (number : Digits) : Prop where
  all_digits : ∀ digit ∈ number.digits, digit.isDigit = true
  leading : (∃ first rest, number.digits = first :: rest ∧ first ≠ '0') ∨
    number.exponent = 0 ∧ number.digits = ['0']

/-- Dropping the zeros at the end leaves the first digit in place. -/
theorem drop_trailing_zeros {first : Char} (rest : List Char) (not_zero : first ≠ '0') :
    ∃ others, ((first :: rest).reverse.dropWhile (· = '0')).reverse = first :: others ∧
      ∀ digit ∈ others, digit ∈ rest := by
  refine ⟨(rest.reverse.dropWhile (· = '0')).reverse, ?_, ?_⟩
  · rw [List.reverse_cons, List.dropWhile_append]
    split
    · rename_i empty
      rw [List.isEmpty_iff.mp empty]
      simp [not_zero]
    · simp
  · intro digit member
    have kept : digit ∈ rest.reverse.dropWhile (· = '0') := by simpa using member
    simpa using (List.dropWhile_sublist _).subset kept

theorem ofMultiple_proper {multiple : Nat} (positive : 0 < multiple) (exponent : Int) :
    (Digits.ofMultiple multiple exponent).Proper := by
  rcases Json.exists_first_digit positive with ⟨first, rest, digits, not_zero⟩
  rcases drop_trailing_zeros rest not_zero with ⟨others, trimmed, subset⟩
  have all := Json.isDigit_toDigits multiple
  rw [digits] at all
  simp only [Digits.ofMultiple, digits, trimmed]
  constructor
  · intro digit member
    rcases List.mem_cons.mp member with rfl | later
    · exact all digit List.mem_cons_self
    · exact all digit (List.mem_cons_of_mem _ (subset digit later))
  · exact .inl ⟨first, others, rfl, not_zero⟩

theorem shortest_proper {units : Nat} (positive : 0 < units) :
    (Double.shortest units).Proper := by
  rcases Double.exists_shortest positive with ⟨multiple, exponent, some_multiple, same, -⟩
  rw [same]
  exact ofMultiple_proper some_multiple exponent

end NetworkIsolation.Decimal

namespace NetworkIsolation.Json

open NetworkIsolation.Decimal

/-! ## The number that a text stands for -/

/-- The exponent that is written. -/
def NumberText.writtenExponent (text : NumberText) : Int :=
  match text.exponent with
  | none => 0
  | some (negative, digits) =>
    if negative then -(Nat.ofDigitChars 10 digits 0 : Int) else Nat.ofDigitChars 10 digits 0

/-- The number that a text stands for. -/
def NumberText.value (text : NumberText) : ℚ :=
  Nat.ofDigitChars 10 (text.whole ++ text.fraction) 0 *
    10 ^ (text.writtenExponent - text.fraction.length)

/-- A proper text that is not that of a whole number and stands for a number. -/
structure NumberText.StandsFor (text : NumberText) (value : ℚ) : Prop where
  proper : text.Proper
  not_whole : text.isWhole = false
  same : text.value = value

theorem NumberText.StandsFor.some_fraction {whole fraction : List Char} {value : ℚ}
    (stands_for : NumberText.StandsFor ⟨whole, fraction, none⟩ value) : fraction ≠ [] := by
  simpa [NumberText.isWhole] using stands_for.not_whole

theorem ofDigitChars_zeros_append (count : Nat) (digits : List Char) :
    Nat.ofDigitChars 10 (List.replicate count '0' ++ digits) 0 = Nat.ofDigitChars 10 digits 0 := by
  rw [Nat.ofDigitChars_append, Nat.ofDigitChars_replicate_zero, Nat.mul_zero]

/-- A text without an exponent stands for its digits with the point moved. -/
theorem standsFor_of_fraction {whole fraction : List Char} {value : ℚ} (is_whole : IsWhole whole)
    (digits : ∀ digit ∈ fraction, digit.isDigit = true) (some_digits : fraction ≠ [])
    (same : Nat.ofDigitChars 10 (whole ++ fraction) 0 * (10 : ℚ) ^ (-(fraction.length : Int)) =
      value) : NumberText.StandsFor ⟨whole, fraction, none⟩ value := by
  refine ⟨⟨is_whole, digits, ?_⟩, ?_, ?_⟩
  · intro negative written exponent
    cases exponent
  · simpa [NumberText.isWhole] using some_digits
  · rw [← same]
    simp only [NumberText.value, NumberText.writtenExponent, Int.zero_sub]

theorem isDigit_replicate (count : Nat) :
    ∀ digit ∈ List.replicate count '0', digit.isDigit = true := by
  intro digit member
  rw [List.eq_of_mem_replicate member]
  rfl

theorem chars_of_fraction (whole : List Char) {fraction : List Char} (some_digits : fraction ≠ []) :
    (⟨whole, fraction, none⟩ : NumberText).chars = whole ++ '.' :: fraction := by
  cases fraction with
  | nil => exact absurd rfl some_digits
  | cons digit digits =>
      simp [NumberText.chars, NumberText.fractionChars, NumberText.exponentChars]

section

variable {number : Digits} (proper : number.Proper)

include proper

/-- Below one, zeros are put between the point and the digits. -/
theorem standsFor_below_one (below_one : number.exponent < 0) :
    NumberText.StandsFor
      ⟨['0'], List.replicate (number.exponent.natAbs - 1) '0' ++ number.digits, none⟩
      number.value := by
  have some_digits : number.digits ≠ [] := by
    rcases proper.leading with ⟨first, rest, digits, -⟩ | ⟨zero, -⟩
    · simp [digits]
    · omega
  have place : -((List.replicate (number.exponent.natAbs - 1) '0' ++
      number.digits).length : Int) = number.exponent + 1 - number.digits.length := by
    rw [List.length_append, List.length_replicate]
    omega
  refine standsFor_of_fraction ⟨isDigit_replicate 1, .inl rfl⟩ ?_ (by simp [some_digits]) ?_
  · intro digit member
    rcases List.mem_append.mp member with filled | digit_of_number
    · exact isDigit_replicate _ digit filled
    · exact proper.all_digits digit digit_of_number
  · rw [place, Digits.value,
      ← ofDigitChars_zeros_append (number.exponent.natAbs - 1 + 1) number.digits]
    rfl

/-- The whole part of a positional text, filled up with zeros. -/
theorem isWhole_filled :
    IsWhole (number.digits.take (number.exponent.toNat + 1) ++
      List.replicate (number.exponent.toNat + 1 -
        (number.digits.take (number.exponent.toNat + 1)).length) '0') := by
  constructor
  · intro digit member
    rcases List.mem_append.mp member with taken | filled
    · exact proper.all_digits digit (List.mem_of_mem_take taken)
    · exact isDigit_replicate _ digit filled
  · rcases proper.leading with ⟨first, rest, digits, not_zero⟩ | ⟨zero, zero_digit⟩
    · right
      rw [digits, List.take_succ_cons]
      exact ⟨first, _, rfl, not_zero⟩
    · left
      simp [zero, zero_digit]

/-- Digits that end before the point are filled up, and a zero is put behind the point. -/
theorem standsFor_filled (at_least_one : ¬ number.exponent < 0)
    (short : number.digits.length ≤ number.exponent.toNat + 1) :
    NumberText.StandsFor
      ⟨number.digits.take (number.exponent.toNat + 1) ++ List.replicate (number.exponent.toNat +
        1 - (number.digits.take (number.exponent.toNat + 1)).length) '0', ['0'], none⟩
      number.value := by
  refine standsFor_of_fraction (isWhole_filled proper) (isDigit_replicate 1)
    (List.cons_ne_nil _ _) ?_
  have place : number.exponent + 1 - number.digits.length =
      ((number.exponent.toNat + 1 - number.digits.length : Nat) : Int) := by
    omega
  have tenth : (10 : ℚ) ^ (-(['0'].length : Int)) = 1 / 10 := by norm_num
  rw [List.take_of_length_le short, List.append_assoc, Nat.ofDigitChars_append,
    ← List.replicate_succ', Nat.ofDigitChars_replicate_zero, Digits.value, place, zpow_natCast,
    tenth]
  push_cast
  ring

/-- Digits that go on behind the point are split there. -/
theorem standsFor_split (at_least_one : ¬ number.exponent < 0)
    (long : number.exponent.toNat + 1 < number.digits.length) :
    NumberText.StandsFor ⟨number.digits.take (number.exponent.toNat + 1),
      number.digits.drop (number.exponent.toNat + 1), none⟩ number.value := by
  have is_whole := isWhole_filled proper
  rw [List.length_take, Nat.min_eq_left long.le, Nat.sub_self, List.replicate_zero,
    List.append_nil] at is_whole
  have some_digits : number.digits.drop (number.exponent.toNat + 1) ≠ [] := by
    simpa using long
  have place : -((number.digits.drop (number.exponent.toNat + 1)).length : Int) =
      number.exponent + 1 - number.digits.length := by
    rw [List.length_drop]
    omega
  refine standsFor_of_fraction is_whole ?_ some_digits ?_
  · intro digit member
    exact proper.all_digits digit (List.mem_of_mem_drop member)
  · rw [List.take_append_drop, place]
    rfl

theorem positional_text :
    ∃ text : NumberText, text.StandsFor number.value ∧
      doubleLayout.positional number = text.chars := by
  rw [Layout.positional]
  by_cases below_one : number.exponent < 0
  · have stands_for := standsFor_below_one proper below_one
    refine ⟨_, stands_for, ?_⟩
    rw [if_pos below_one, chars_of_fraction _ stands_for.some_fraction]
    simp
  · rw [if_neg below_one]
    by_cases no_fraction : (number.digits.drop (number.exponent.toNat + 1)).isEmpty = true
    · have stands_for := standsFor_filled proper below_one (by simpa using no_fraction)
      refine ⟨_, stands_for, ?_⟩
      simp only [if_pos no_fraction]
      rw [chars_of_fraction _ stands_for.some_fraction]
      rfl
    · have stands_for := standsFor_split proper below_one (by simpa using no_fraction)
      refine ⟨_, stands_for, ?_⟩
      simp only [if_neg no_fraction]
      rw [chars_of_fraction _ stands_for.some_fraction]

/-- The exponent of a scientific text is that of the leading digit. -/
theorem scientific_text (not_zero : number.exponent ≠ 0) :
    ∃ text : NumberText, text.StandsFor number.value ∧
      doubleLayout.scientific number = text.chars := by
  rcases proper.leading with ⟨first, rest, digits, first_not_zero⟩ | ⟨zero, -⟩
  · have all := proper.all_digits
    rw [digits] at all
    refine ⟨⟨[first], rest, some (decide (number.exponent < 0),
      Nat.toDigits 10 number.exponent.natAbs)⟩, ⟨⟨⟨?_, ?_⟩, ?_, ?_⟩, ?_, ?_⟩, ?_⟩
    · intro digit member
      rw [List.mem_singleton.mp member]
      exact all first List.mem_cons_self
    · exact .inr ⟨first, [], rfl, first_not_zero⟩
    · intro digit member
      exact all digit (List.mem_cons_of_mem _ member)
    · intro negative written same
      cases same
      exact ⟨Nat.toDigits_ne_nil, isDigit_toDigits _⟩
    · simp [NumberText.isWhole]
    · have written : (NumberText.writtenExponent ⟨[first], rest,
          some (decide (number.exponent < 0), Nat.toDigits 10 number.exponent.natAbs)⟩) =
            number.exponent := by
        simp only [NumberText.writtenExponent, Nat.ofDigitChars_ten_toDigits, decide_eq_true_eq]
        split <;> omega
      have place : number.exponent - rest.length =
          number.exponent + 1 - (first :: rest).length := by
        rw [List.length_cons]
        omega
      rw [NumberText.value, written, Digits.value, digits, ← place]
      rfl
    · rw [Layout.scientific, digits]
      cases rest <;> by_cases negative : number.exponent < 0 <;>
        simp [doubleLayout, Layout.exponentText, NumberText.chars, NumberText.fractionChars,
          NumberText.exponentChars, negative]
  · exact absurd zero not_zero

end

/-- The text of a double stands for the number that its shortest decimal stands for. -/
theorem double_text (value : Double) :
    ∃ text : NumberText, text.StandsFor (Double.shortestValue value.units) ∧
      (Number.double value).chars = (if value.negative then ['-'] else []) ++ text.chars := by
  have magnitude : ∃ text : NumberText, text.StandsFor (Double.shortestValue value.units) ∧
      (if value.units = 0 then doubleLayout.positional ⟨['0'], 0⟩
      else if doubleLayout.positionalFrom ≤ (Double.shortest value.units).exponent &&
          (Double.shortest value.units).exponent ≤ doubleLayout.positionalTo then
        doubleLayout.positional (Double.shortest value.units)
      else doubleLayout.scientific (Double.shortest value.units)) = text.chars := by
    rw [Double.shortestValue]
    split
    · have zero : (⟨['0'], 0⟩ : Digits).value = 0 := by
        simp [Digits.value, Nat.ofDigitChars_cons]
      rw [← zero]
      apply positional_text
      exact ⟨isDigit_replicate 1, .inr ⟨rfl, rfl⟩⟩
    · rename_i not_zero
      have proper := shortest_proper (Nat.pos_of_ne_zero not_zero)
      split
      · exact positional_text proper
      · rename_i far
        apply scientific_text proper
        intro zero
        rw [zero] at far
        exact far rfl
  rcases magnitude with ⟨text, stands_for, written⟩
  refine ⟨text, stands_for, ?_⟩
  rw [Number.chars, Layout.write, ← written]
  cases value.negative <;> rfl

/-- The text of a whole number is its digits behind an optional minus sign. -/
theorem integer_text (value : Int) : (Number.integer value).chars =
    (if decide (value < 0) then ['-'] else []) ++ (wholeText value.natAbs).chars := by
  rw [wholeText_chars, Number.chars, integerChars]
  by_cases negative : value < 0 <;> simp [negative]

/-- Every number that is printed is a proper text behind an optional minus sign. -/
theorem exists_text (number : Number) :
    ∃ (negative : Bool) (text : NumberText), text.Proper ∧
      number.chars = (if negative then ['-'] else []) ++ text.chars := by
  cases number with
  | integer value => exact ⟨_, _, wholeText_proper _, integer_text value⟩
  | double value =>
      rcases double_text value with ⟨text, stands_for, written⟩
      exact ⟨_, text, stands_for.proper, written⟩

/-! ## What is read from the text of a number -/

/-- The number that is read from the text of a number. -/
def Number.reread (number : Number) : Option Number :=
  match number.chars with
  | '-' :: magnitude => (scanNumber true magnitude).toOption.map Prod.fst
  | magnitude => (scanNumber false magnitude).toOption.map Prod.fst

/-- What follows a number matters only to the position of an error. -/
theorem toOption_double? (text : NumberText) (unread : Nat) :
    (text.double? unread).toOption = (text.double? 0).toOption := by
  simp only [NumberText.double?]
  cases text.exponent with
  | none => cases Double.scaledUnits? text.significand.1 text.significand.2 <;> rfl
  | some written =>
      simp only [toOption_ite]
      split
      · split <;> rfl
      · generalize (if written.1 then _ else _ : Int) = exponent
        cases Double.scaledUnits? text.significand.1 exponent <;> rfl

theorem toOption_toNumber (text : NumberText) (negative : Bool) (rest : List Char) :
    (text.toNumber negative rest).toOption = (text.toNumber negative []).toOption := by
  have same := toOption_double? text (byteLength rest)
  rw [← toOption_double? text (byteLength [])] at same
  simp only [NumberText.toNumber, toOption_ite]
  cases first : text.double? (byteLength rest) <;>
    cases second : text.double? (byteLength []) <;> simp_all

theorem head_chars {text : NumberText} (proper : text.Proper) :
    ∃ digit rest, text.chars = digit :: rest ∧ digit.isDigit = true := by
  rcases proper.whole with ⟨all, zero | ⟨first, rest, digits, -⟩⟩
  · rw [NumberText.chars, zero]
    exact ⟨'0', _, rfl, rfl⟩
  · have first_digit : first.isDigit = true := by
      apply all
      rw [digits]
      exact List.mem_cons_self
    rw [NumberText.chars, digits]
    exact ⟨first, _, rfl, first_digit⟩

theorem reread_eq {number : Number} {negative : Bool} {text : NumberText} (proper : text.Proper)
    (written : number.chars = (if negative then ['-'] else []) ++ text.chars) :
    number.reread = (text.toNumber negative []).toOption := by
  have scanned : scanNumber negative (text.chars ++ []) = _ :=
    scanNumber_append proper rfl negative
  rw [List.append_nil] at scanned
  have read : ((scanNumber negative text.chars).toOption.map Prod.fst) =
      (text.toNumber negative []).toOption := by
    rw [scanned, toOption_map, Option.map_map]
    exact Option.map_id'
  rcases head_chars proper with ⟨digit, rest, chars, is_digit⟩
  rw [Number.reread, written]
  cases negative with
  | true => exact read
  | false =>
      rw [← read]
      simp only [Bool.false_eq_true, if_false, List.nil_append]
      split
      · rename_i magnitude minus
        rw [chars] at minus
        cases minus
        cases is_digit
      · rfl

/-- A whole number in the range that is kept exactly is read back. -/
theorem reread_integer {value : Int} (low : -(maxNegated : Int) ≤ value)
    (high : value ≤ maxInteger) :
    (Number.integer value).reread = some (.integer value) := by
  rw [reread_eq (wholeText_proper _) (integer_text value)]
  by_cases negative : value < 0
  · rw [decide_eq_true negative, toNumber_wholeText_negative (by omega) (by omega)]
    have absolute : -(value.natAbs : Int) = value := by omega
    rw [absolute, toOption_ok]
  · rw [decide_eq_false negative, toNumber_wholeText (by omega)]
    have absolute : (value.natAbs : Int) = value := by omega
    rw [absolute, toOption_ok]

/-- Whether a number is a whole number in the range that is kept exactly, or a double. -/
def Number.IsKept : Number → Prop
  | .integer value => -(maxNegated : Int) ≤ value ∧ value ≤ maxInteger
  | .double value => Double.IsRepresentable value.units

theorem Number.IsKept.reread {value : Int} (kept : (Number.integer value).IsKept) :
    (Number.integer value).reread = some (.integer value) :=
  reread_integer kept.1 kept.2

end NetworkIsolation.Json
