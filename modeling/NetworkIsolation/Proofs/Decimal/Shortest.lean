import Mathlib.Algebra.Field.Rat
import Mathlib.Data.List.TakeWhile
import Mathlib.Tactic.FieldSimp
import Mathlib.Tactic.NormNum
import NetworkIsolation.Proofs.Decimal.Rounding

/-!
# The search for the shortest decimal

The search tries finer and finer decimal grids, and on each the two neighbours of the
magnitude.  With seventeen digits it cannot fail: the nearer neighbour is at most half a
grid step away, and the steps of that grid are short enough for it to be in the interval.
So the search comes up with a decimal that the magnitude owns.  Such a decimal is rounded
to the double, and so no two doubles have shortest decimals that stand for one number.
-/

namespace NetworkIsolation.Decimal.Double

/-! ## Powers of ten -/

/-- What a power of ten puts above the line of a fraction. -/
def tenAbove (exponent : Int) : Nat :=
  if 0 ≤ exponent then Nat.pow 10 exponent.toNat else 1

/-- What a power of ten puts below the line of a fraction. -/
def tenBelow (exponent : Int) : Nat :=
  if 0 ≤ exponent then 1 else Nat.pow 10 exponent.natAbs

theorem tenAbove_positive (exponent : Int) : 0 < tenAbove exponent := by
  rw [tenAbove]
  split
  · exact Nat.pow_pos (by decide)
  · decide

theorem tenBelow_positive (exponent : Int) : 0 < tenBelow exponent := by
  rw [tenBelow]
  split
  · decide
  · exact Nat.pow_pos (by decide)

theorem unitsPerOne_positive : 0 < unitsPerOne := by
  rw [unitsPerOne, Nat.one_shiftLeft]
  exact Nat.two_pow_pos 1074

/-- There are fewer than `10 ^ 400` units in the number one. -/
theorem unitsPerOne_le : unitsPerOne ≤ 10 ^ 400 := by
  have octal : ∀ count, 2 ^ (3 * count) ≤ 10 ^ count := by
    intro count
    rw [Nat.pow_mul]
    exact Nat.pow_le_pow_left (by decide) count
  rw [unitsPerOne, Nat.one_shiftLeft]
  calc 2 ^ 1074 ≤ 2 ^ (3 * 400) := Nat.pow_le_pow_right (by decide) (by decide)
    _ ≤ 10 ^ 400 := octal 400

/-- The parts are to each other as two powers whose exponents differ by as much. -/
theorem tenAbove_mul_pow {exponent : Int} {above below : Nat}
    (difference : exponent = above - below) :
    tenAbove exponent * 10 ^ below = tenBelow exponent * 10 ^ above := by
  rw [tenAbove, tenBelow]
  split
  · change 10 ^ exponent.toNat * 10 ^ below = 1 * 10 ^ above
    rw [Nat.one_mul, ← Nat.pow_add]
    congr 1
    omega
  · change 1 * 10 ^ below = 10 ^ exponent.natAbs * 10 ^ above
    rw [Nat.one_mul, ← Nat.pow_add]
    congr 1
    omega

/-! ## The interval as it is tested -/

variable {units : Nat}

/-- The test asks whether the decimal is in the interval. -/
theorem ownsDecimal_iff (positive : 0 < units) (multiple : Nat) (exponent : Int) :
    ownsDecimal units multiple exponent = true ↔
      Owns units (unitsPerOne * multiple * tenAbove exponent) (tenBelow exponent) := by
  have reach_le := reachBelow_le units
  have step_le := spacing_le positive
  have low : (4 * units - reachBelow units) * tenBelow exponent +
      reachBelow units * tenBelow exponent = 4 * (units * tenBelow exponent) := by
    rw [← Nat.add_mul, Nat.sub_add_cancel (by omega), Nat.mul_assoc]
  have high : (4 * units + 2 * spacing units) * tenBelow exponent =
      4 * (units * tenBelow exponent) + 2 * (spacing units * tenBelow exponent) := by
    rw [Nat.add_mul, Nat.mul_assoc, Nat.mul_assoc]
  have numerator : 4 * unitsPerOne * multiple * tenAbove exponent =
      4 * (unitsPerOne * multiple * tenAbove exponent) := by
    rw [Nat.mul_assoc, Nat.mul_assoc, Nat.mul_assoc]
  change (if ownsEnds units = true then
      decide ((4 * units - reachBelow units) * tenBelow exponent ≤
        4 * unitsPerOne * multiple * tenAbove exponent) &&
      decide (4 * unitsPerOne * multiple * tenAbove exponent ≤
        (4 * units + 2 * spacing units) * tenBelow exponent)
    else
      decide ((4 * units - reachBelow units) * tenBelow exponent <
        4 * unitsPerOne * multiple * tenAbove exponent) &&
      decide (4 * unitsPerOne * multiple * tenAbove exponent <
        (4 * units + 2 * spacing units) * tenBelow exponent)) = true ↔ _
  rw [high, numerator]
  split
  · rename_i ends
    simp only [Bool.and_eq_true, decide_eq_true_eq]
    constructor
    · rintro ⟨above, below⟩
      exact ⟨by omega, below, fun _ => ends⟩
    · rintro ⟨above, below, -⟩
      exact ⟨by omega, below⟩
  · rename_i no_ends
    simp only [Bool.and_eq_true, decide_eq_true_eq]
    constructor
    · rintro ⟨above, below⟩
      exact ⟨by omega, by omega, by omega⟩
    · rintro ⟨above, below, ends⟩
      have inside := mt ends no_ends
      omega

/-! ## The grid of seventeen digits -/

/-- The interval reaches down to a `2 ^ 54`th of the magnitude, at least. -/
theorem le_reachBelow_mul (units : Nat) : units ≤ reachBelow units * 2 ^ 52 := by
  have step := spacing_eq units
  rw [reachBelow, Nat.one_shiftLeft]
  split
  · rename_i power
    simp only [Bool.and_eq_true, decide_eq_true_eq] at power
    rcases power with ⟨power, coarse⟩
    have exponent : 52 < units.log2 := by
      by_contra fine
      rw [step, Nat.sub_eq_zero_of_le (by omega)] at coarse
      omega
    rw [step, ← Nat.pow_add, Nat.sub_add_cancel (by omega)]
    exact Nat.le_of_eq power
  · have below := @Nat.lt_log2_self units
    have longer : 2 ^ (units.log2 + 1) ≤ 2 * spacing units * 2 ^ 52 := by
      rw [step, Nat.mul_assoc, ← Nat.pow_add, ← Nat.pow_succ']
      exact Nat.pow_le_pow_right (by decide) (by omega)
    omega

/-- A number is at least the power of ten at its leading digit. -/
theorem pow_length_le {number : Nat} (positive : 0 < number) :
    10 ^ ((Nat.toDigits 10 number).length - 1) ≤ number := by
  by_cases one : (Nat.toDigits 10 number).length = 1
  · rw [one]
    exact positive
  · by_contra short
    have some_digits := @Nat.length_toDigits_pos 10 number
    have fewer := (Nat.length_toDigits_le_iff (by decide : 1 < 10) (by omega)).mpr
      (Nat.lt_of_not_le short)
    omega

/-- The leading digit does not stand too high. -/
theorem le_of_leadingExponent (positive : 0 < units) :
    unitsPerOne * tenAbove (leadingExponent units - 16) * 10 ^ 16 ≤
      units * tenBelow (leadingExponent units - 16) := by
  generalize shift : units * 10 ^ 400 / unitsPerOne = shifted
  have shifted_positive : 0 < shifted := by
    rw [← shift, Nat.div_pos_iff]
    exact ⟨unitsPerOne_positive,
      Nat.le_trans unitsPerOne_le (Nat.le_mul_of_pos_left _ positive)⟩
  have some_digits : 0 < (Nat.toDigits 10 shifted).length := Nat.length_toDigits_pos
  have long := pow_length_le shifted_positive
  have scaled : unitsPerOne * 10 ^ ((Nat.toDigits 10 shifted).length - 1) ≤ units * 10 ^ 400 := by
    rw [Nat.mul_comm unitsPerOne]
    exact (Nat.le_div_iff_mul_le unitsPerOne_positive).mp (shift ▸ long)
  have leading : leadingExponent units - 16 =
      (((Nat.toDigits 10 shifted).length - 1 : Nat) : Int) - (16 + 400 : Nat) := by
    have unfolded : leadingExponent units = ((Nat.toDigits 10 shifted).length : Int) - 401 := by
      simp only [leadingExponent, Nat.pow_eq, shift]
    omega
  have parts := tenAbove_mul_pow leading
  generalize leadingExponent units - 16 = exponent at parts ⊢
  have scale_positive : 0 < 10 ^ 400 :=
    Nat.lt_of_lt_of_le unitsPerOne_positive unitsPerOne_le
  refine Nat.le_of_mul_le_mul_right ?_ scale_positive
  calc unitsPerOne * tenAbove exponent * 10 ^ 16 * 10 ^ 400
      = unitsPerOne * (tenAbove exponent * 10 ^ (16 + 400)) := by
        rw [Nat.pow_add, Nat.mul_assoc, Nat.mul_assoc]
    _ = unitsPerOne * 10 ^ ((Nat.toDigits 10 shifted).length - 1) * tenBelow exponent := by
        rw [parts]
        ring
    _ ≤ units * 10 ^ 400 * tenBelow exponent := Nat.mul_le_mul_right _ scaled
    _ = units * tenBelow exponent * 10 ^ 400 := Nat.mul_right_comm _ _ _

/-- The first neighbour on a grid is at most half a step away. -/
theorem exists_nearer_neighbour (units : Nat) (exponent : Int) :
    ∃ nearer further, gridNeighbours units exponent = [nearer, further] ∧
      2 * (units * tenBelow exponent) ≤
        2 * (unitsPerOne * nearer * tenAbove exponent) + unitsPerOne * tenAbove exponent ∧
      2 * (unitsPerOne * nearer * tenAbove exponent) ≤
        2 * (units * tenBelow exponent) + unitsPerOne * tenAbove exponent := by
  have neighbours : gridNeighbours units exponent =
      if 2 * (units * tenBelow exponent % (unitsPerOne * tenAbove exponent)) <
          unitsPerOne * tenAbove exponent ||
        (2 * (units * tenBelow exponent % (unitsPerOne * tenAbove exponent)) =
            unitsPerOne * tenAbove exponent &&
          units * tenBelow exponent / (unitsPerOne * tenAbove exponent) % 2 = 0) then
        [units * tenBelow exponent / (unitsPerOne * tenAbove exponent),
          units * tenBelow exponent / (unitsPerOne * tenAbove exponent) + 1]
      else
        [units * tenBelow exponent / (unitsPerOne * tenAbove exponent) + 1,
          units * tenBelow exponent / (unitsPerOne * tenAbove exponent)] := rfl
  have step_positive : 0 < unitsPerOne * tenAbove exponent :=
    Nat.mul_pos unitsPerOne_positive (tenAbove_positive exponent)
  have multiple_eq : ∀ multiple, unitsPerOne * multiple * tenAbove exponent =
      unitsPerOne * tenAbove exponent * multiple := fun multiple => Nat.mul_right_comm _ _ _
  have division := Nat.div_add_mod (units * tenBelow exponent) (unitsPerOne * tenAbove exponent)
  have remainder := Nat.mod_lt (units * tenBelow exponent) step_positive
  rw [neighbours]
  simp only [multiple_eq]
  generalize unitsPerOne * tenAbove exponent = step at *
  generalize units * tenBelow exponent / step = quotient at *
  generalize units * tenBelow exponent % step = rest at *
  split
  · rename_i low
    simp only [Bool.or_eq_true, Bool.and_eq_true, decide_eq_true_eq] at low
    exact ⟨quotient, quotient + 1, rfl, by omega, by omega⟩
  · rename_i high
    simp only [Bool.or_eq_true, Bool.and_eq_true, decide_eq_true_eq, not_or] at high
    have next : step * (quotient + 1) = step * quotient + step := Nat.mul_succ _ _
    exact ⟨quotient + 1, quotient, rfl, by omega, by omega⟩

/-- On the grid of seventeen digits, the magnitude owns the nearer of its neighbours. -/
theorem ownsDecimal_of_seventeen (positive : 0 < units) :
    ∃ nearer further, gridNeighbours units (leadingExponent units - 16) = [nearer, further] ∧
      ownsDecimal units nearer (leadingExponent units - 16) = true := by
  rcases exists_nearer_neighbour units (leadingExponent units - 16) with
    ⟨nearer, further, neighbours, high, low⟩
  refine ⟨nearer, further, neighbours, (ownsDecimal_iff positive _ _).mpr ?_⟩
  have leading := le_of_leadingExponent positive
  have reach := Nat.mul_le_mul_right (tenBelow (leadingExponent units - 16))
    (le_reachBelow_mul units)
  have reach_le := Nat.mul_le_mul_right (tenBelow (leadingExponent units - 16))
    (reachBelow_le units)
  have below_positive := tenBelow_positive (leadingExponent units - 16)
  have reach_positive : 0 < reachBelow units := by
    have le := le_reachBelow_mul units
    omega
  have some_reach := Nat.mul_pos reach_positive below_positive
  generalize leadingExponent units - 16 = exponent at *
  rw [Nat.mul_right_comm] at reach
  rw [Nat.mul_assoc 2] at reach_le
  -- Half a step is less than the interval reaches down, since 2 ^ 53 is less than 10 ^ 16.
  exact ⟨by omega, by omega, by omega⟩

/-! ## The search -/

/-- Once it has seventeen digits ahead, the search ends with a decimal that the magnitude owns. -/
theorem ownsDecimal_searchGrids (positive : 0 < units) (fuel count : Nat) (early : count ≤ 17)
    (enough : 17 < count + fuel) :
    ownsDecimal units (searchGrids units (leadingExponent units) fuel count).1
      (searchGrids units (leadingExponent units) fuel count).2 = true := by
  induction fuel generalizing count with
  | zero => omega
  | succ fuel induction_hypothesis =>
      rw [searchGrids]
      split
      · rename_i multiple found
        have owned := List.find?_some found
        exact owned
      · rename_i missed
        refine induction_hypothesis (count + 1) ?_ (by omega)
        by_contra late
        rcases ownsDecimal_of_seventeen positive with ⟨nearer, further, neighbours, owned⟩
        have last : leadingExponent units - (count : Int) + 1 = leadingExponent units - 16 := by
          omega
        rw [last, neighbours] at missed
        have not_owned := List.find?_eq_none.mp missed nearer List.mem_cons_self
        exact not_owned owned

/-- A magnitude does not own the decimal zero. -/
theorem Owns.numerator_positive {numerator denominator : Nat} (positive : 0 < units)
    (some_denominator : 0 < denominator) (owns : Owns units numerator denominator) :
    0 < numerator := by
  have above := owns.above
  have reach := Nat.mul_le_mul_right denominator (reachBelow_le units)
  have step := Nat.mul_le_mul_right denominator (spacing_le positive)
  have product := Nat.mul_pos positive some_denominator
  rw [Nat.mul_assoc] at reach
  omega

/-- The shortest decimal of a magnitude is a multiple of a power of ten that it owns. -/
theorem exists_shortest (positive : 0 < units) :
    ∃ multiple exponent, 0 < multiple ∧ shortest units = .ofMultiple multiple exponent ∧
      Owns units (unitsPerOne * multiple * tenAbove exponent) (tenBelow exponent) := by
  have owns := (ownsDecimal_iff positive _ _).mp
    (ownsDecimal_searchGrids positive 18 1 (by decide) (by decide))
  refine ⟨_, _, Nat.pos_of_ne_zero ?_, rfl, owns⟩
  intro zero
  have some_numerator := owns.numerator_positive positive (tenBelow_positive _)
  rw [zero, Nat.mul_zero, Nat.zero_mul] at some_numerator
  exact Nat.lt_irrefl 0 some_numerator

/-- The shortest decimal of a double is rounded to the double. -/
theorem exists_shortest_nearest (positive : 0 < units) (representable : IsRepresentable units) :
    ∃ multiple exponent, shortest units = .ofMultiple multiple exponent ∧
      nearestUnits (unitsPerOne * multiple * tenAbove exponent) (tenBelow exponent) = units := by
  rcases exists_shortest positive with ⟨multiple, exponent, -, written, owns⟩
  exact ⟨multiple, exponent, written,
    nearestUnits_of_owns (tenBelow_positive exponent) positive.ne' representable owns⟩

/-! ## One decimal, one double -/

theorem roundHalfEven_scale (numerator denominator : Nat) {factor : Nat} (positive : 0 < factor) :
    roundHalfEven (numerator * factor) (denominator * factor) =
      roundHalfEven numerator denominator := by
  simp only [roundHalfEven, Nat.mul_div_mul_right _ _ positive, Nat.mul_mod_mul_right,
    ← Nat.mul_assoc, Nat.mul_lt_mul_right positive]

/-- Fractions that are equal are rounded alike. -/
theorem nearestUnits_eq_of_mul_eq {numerator denominator other other_denominator : Nat}
    (positive : 0 < denominator) (other_positive : 0 < other_denominator)
    (same : numerator * other_denominator = other * denominator) :
    nearestUnits numerator denominator = nearestUnits other other_denominator := by
  have scale : ∀ (numerator denominator : Nat) {factor : Nat}, 0 < factor →
      nearestUnits (numerator * factor) (denominator * factor) =
        nearestUnits numerator denominator := by
    intro numerator denominator factor positive
    simp only [nearestUnits, Nat.mul_div_mul_right _ _ positive]
    rw [Nat.mul_right_comm, roundHalfEven_scale _ _ positive]
  rw [← scale numerator denominator other_positive, same, Nat.mul_comm denominator,
    scale _ _ positive]

end Double

/-- The number that digits stand for. -/
def Digits.value (number : Digits) : ℚ :=
  Nat.ofDigitChars 10 number.digits 0 * 10 ^ (number.exponent + 1 - number.digits.length)

/-- Digits without the zeros at their end, and these zeros. -/
theorem exists_trailing_zeros (digits : List Char) :
    ∃ count, digits = (digits.reverse.dropWhile (· = '0')).reverse ++ List.replicate count '0' := by
  refine ⟨(digits.reverse.takeWhile (· = '0')).length, ?_⟩
  have zeros : digits.reverse.takeWhile (· = '0') =
      List.replicate (digits.reverse.takeWhile (· = '0')).length '0' := by
    refine List.eq_replicate_of_mem fun digit member => ?_
    simpa using List.mem_takeWhile_imp member
  rw [← List.reverse_replicate, ← zeros, ← List.reverse_append, List.takeWhile_append_dropWhile,
    List.reverse_reverse]

/-- The digits of a multiple stand for the multiple. -/
theorem value_ofMultiple (multiple : Nat) (exponent : Int) :
    (Digits.ofMultiple multiple exponent).value = multiple * 10 ^ exponent := by
  rcases exists_trailing_zeros (Nat.toDigits 10 multiple) with ⟨count, written⟩
  have number := @Nat.ofDigitChars_ten_toDigits multiple
  have length := congrArg List.length written
  rw [written, Nat.ofDigitChars_append, Nat.ofDigitChars_replicate_zero] at number
  rw [List.length_append, List.length_replicate] at length
  simp only [Digits.value, Digits.ofMultiple]
  generalize ((Nat.toDigits 10 multiple).reverse.dropWhile (· = '0')).reverse = digits at *
  have place : exponent + ((Nat.toDigits 10 multiple).length : Int) - 1 + 1 - digits.length =
      count + exponent := by
    omega
  rw [place, zpow_add₀ (by norm_num), zpow_natCast, ← number]
  push_cast
  ring

namespace Double

variable {units other : Nat}

/-- A power of ten is the quotient of its two parts. -/
theorem tenAbove_div_tenBelow (exponent : Int) :
    (tenAbove exponent : ℚ) / tenBelow exponent = 10 ^ exponent := by
  have parts : exponent = (exponent.toNat : Int) - ((-exponent).toNat : Int) := by omega
  have product := tenAbove_mul_pow parts
  have below : (tenBelow exponent : ℚ) ≠ 0 := by
    exact_mod_cast (tenBelow_positive exponent).ne'
  have quotient : (10 : ℚ) ^ exponent = 10 ^ exponent.toNat / 10 ^ (-exponent).toNat := by
    conv_lhs => rw [parts]
    rw [zpow_sub₀ (by norm_num), zpow_natCast, zpow_natCast]
  rw [quotient, div_eq_div_iff below (by positivity)]
  have cast := congrArg (Nat.cast : Nat → ℚ) product
  push_cast at cast
  rw [cast, mul_comm]

/-- The shortest decimal of a magnitude does not stand for zero. -/
theorem value_shortest_ne_zero (positive : 0 < units) : (shortest units).value ≠ 0 := by
  rcases exists_shortest positive with ⟨multiple, exponent, some_multiple, same, -⟩
  rw [same, value_ofMultiple]
  have not_zero : (multiple : ℚ) ≠ 0 := by exact_mod_cast some_multiple.ne'
  exact mul_ne_zero not_zero (zpow_ne_zero _ (by norm_num))

/-- Two doubles whose shortest decimals stand for the same number are the same. -/
theorem eq_of_value_shortest (positive : 0 < units) (other_positive : 0 < other)
    (representable : IsRepresentable units) (other_representable : IsRepresentable other)
    (same : (shortest units).value = (shortest other).value) : units = other := by
  rcases exists_shortest_nearest positive representable with
    ⟨multiple, exponent, written, nearest⟩
  rcases exists_shortest_nearest other_positive other_representable with
    ⟨other_multiple, other_exponent, other_written, other_nearest⟩
  have below := tenBelow_positive exponent
  have other_below := tenBelow_positive other_exponent
  have below_cast : (tenBelow exponent : ℚ) ≠ 0 := by exact_mod_cast below.ne'
  have other_below_cast : (tenBelow other_exponent : ℚ) ≠ 0 := by exact_mod_cast other_below.ne'
  rw [written, other_written, value_ofMultiple, value_ofMultiple, ← tenAbove_div_tenBelow,
    ← tenAbove_div_tenBelow, ← mul_div_assoc, ← mul_div_assoc,
    div_eq_div_iff below_cast other_below_cast] at same
  have products : multiple * tenAbove exponent * tenBelow other_exponent =
      other_multiple * tenAbove other_exponent * tenBelow exponent := by
    exact_mod_cast same
  rw [← nearest, ← other_nearest]
  apply nearestUnits_eq_of_mul_eq below other_below
  calc unitsPerOne * multiple * tenAbove exponent * tenBelow other_exponent
      = unitsPerOne * (multiple * tenAbove exponent * tenBelow other_exponent) := by ring
    _ = unitsPerOne * other_multiple * tenAbove other_exponent * tenBelow exponent := by
        rw [products]
        ring

/-- The number that a magnitude is written as. -/
def shortestValue (units : Nat) : ℚ :=
  if units = 0 then 0 else (shortest units).value

/-- No two magnitudes of doubles are written as the same number. -/
theorem eq_of_shortestValue_eq (representable : IsRepresentable units)
    (other_representable : IsRepresentable other)
    (same : shortestValue units = shortestValue other) : units = other := by
  rw [shortestValue, shortestValue] at same
  split at same
  · rename_i zero
    split at same
    · rename_i other_zero
      rw [zero, other_zero]
    · rename_i not_zero
      exact absurd same.symm (value_shortest_ne_zero (Nat.pos_of_ne_zero not_zero))
  · rename_i not_zero
    split at same
    · exact absurd same (value_shortest_ne_zero (Nat.pos_of_ne_zero not_zero))
    · rename_i other_not_zero
      exact eq_of_value_shortest (Nat.pos_of_ne_zero not_zero)
        (Nat.pos_of_ne_zero other_not_zero) representable other_representable same

end Double

end NetworkIsolation.Decimal
