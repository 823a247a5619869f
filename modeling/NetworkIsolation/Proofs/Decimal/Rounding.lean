import Mathlib.Tactic.Ring
import NetworkIsolation.Decimal.Shortest

/-!
# Rounding to doubles

A magnitude is representable if it is a multiple of the distance between doubles where it
is.  Every magnitude that is rounded to is representable, and a representable one is
rounded to from everywhere in the interval that it owns.  So no two doubles own the same
number, and what is known to be owned says which double it is.

The distance doubles with each power of two.  Below a power of two the doubles lie twice
as close, which is why the interval there ends at a quarter of the distance: a number in
it is rounded on the finer grid.
-/

namespace NetworkIsolation.Decimal.Double

/-- The distance is a power of two, and one for all magnitudes below `2 ^ 53`. -/
theorem spacing_eq (units : Nat) : spacing units = 2 ^ (units.log2 - 52) := by
  rw [spacing, Nat.one_shiftLeft, Nat.one_shiftLeft]
  split
  · rename_i small
    have exponent : units.log2 - 52 = 0 := by
      by_cases zero : units = 0
      · rw [zero]
        rfl
      · have below := (Nat.log2_lt zero).mpr small
        omega
    rw [exponent, Nat.pow_zero]
  · congr 1

theorem spacing_positive (units : Nat) : 0 < spacing units := by
  rw [spacing_eq]
  exact Nat.two_pow_pos _

theorem spacing_le {units : Nat} (positive : 0 < units) : spacing units ≤ units := by
  rw [spacing]
  split
  · exact positive
  · rw [Nat.one_shiftLeft]
    calc 2 ^ (units.log2 + 1 - 53) ≤ 2 ^ units.log2 := Nat.pow_le_pow_right (by decide) (by omega)
      _ ≤ units := Nat.log2_self_le (by omega)

/-- Whether a magnitude is that of a double. -/
def IsRepresentable (units : Nat) : Prop :=
  spacing units ∣ units

/-- At most `2 ^ 53` times a power of two is representable. -/
theorem isRepresentable_of_mul {factor : Nat} (short : factor ≤ 2 ^ 53) (exponent : Nat) :
    IsRepresentable (factor * 2 ^ exponent) := by
  rw [IsRepresentable, spacing_eq]
  by_cases zero : factor = 0
  · rw [zero, Nat.zero_mul]
    exact Nat.dvd_zero _
  have not_zero : factor * 2 ^ exponent ≠ 0 :=
    Nat.mul_ne_zero zero (Nat.ne_of_gt (Nat.two_pow_pos exponent))
  rcases Nat.lt_or_eq_of_le short with shorter | same
  · have below : factor * 2 ^ exponent < 2 ^ (exponent + 53) := by
      rw [Nat.pow_add, Nat.mul_comm]
      exact Nat.mul_lt_mul_of_pos_left shorter (Nat.two_pow_pos exponent)
    have logarithm := (Nat.log2_lt not_zero).mpr below
    exact Nat.dvd_mul_left_of_dvd (Nat.pow_dvd_pow 2 (by omega)) factor
  · rw [same, ← Nat.pow_add, Nat.log2_two_pow]
    exact Nat.pow_dvd_pow 2 (by omega)

/-! ## Rounding -/

/-- A fraction is rounded to what is at most a half away, and at a half to what is even. -/
theorem roundHalfEven_eq {numerator denominator rounded : Nat} (positive : 0 < denominator)
    (above : 2 * (rounded * denominator) ≤ 2 * numerator + denominator)
    (below : 2 * numerator ≤ 2 * (rounded * denominator) + denominator)
    (ties_even : 2 * (rounded * denominator) = 2 * numerator + denominator ∨
      2 * numerator = 2 * (rounded * denominator) + denominator → rounded % 2 = 0) :
    roundHalfEven numerator denominator = rounded := by
  have division := Nat.div_add_mod numerator denominator
  have remainder := Nat.mod_lt numerator positive
  rw [roundHalfEven]
  generalize numerator / denominator = quotient at division ⊢
  generalize numerator % denominator = rest at division remainder ⊢
  subst division
  have low : rounded ≤ quotient + 1 := by
    by_contra beyond
    have far : denominator * (quotient + 2) ≤ denominator * rounded :=
      Nat.mul_le_mul_left _ (by omega)
    rw [Nat.mul_add, Nat.mul_comm denominator rounded] at far
    omega
  have high : quotient ≤ rounded := by
    by_contra beyond
    have far : denominator * (rounded + 1) ≤ denominator * quotient :=
      Nat.mul_le_mul_left _ (by omega)
    rw [Nat.mul_add, Nat.mul_comm denominator rounded] at far
    omega
  have product : quotient * denominator = denominator * quotient := Nat.mul_comm _ _
  change (if 2 * rest < denominator then quotient else if denominator < 2 * rest then quotient + 1
    else if quotient % 2 = 0 then quotient else quotient + 1) = rounded
  rcases Nat.lt_or_eq_of_le high with up | same
  · have rounded_up : rounded = quotient + 1 := by omega
    subst rounded_up
    rw [Nat.add_mul, Nat.one_mul, product] at above ties_even
    rw [if_neg (by omega)]
    split
    · rfl
    · have even := ties_even (by omega)
      rw [if_neg (by omega)]
  · subst same
    rw [product] at below ties_even
    split
    · rfl
    · have even := ties_even (by omega)
      rw [if_neg (by omega), if_pos even]

theorem roundHalfEven_le (numerator denominator : Nat) :
    roundHalfEven numerator denominator ≤ numerator / denominator + 1 := by
  simp only [roundHalfEven]
  split
  · omega
  · split
    · omega
    · split <;> omega

/-- What is rounded to is representable. -/
theorem isRepresentable_nearestUnits (numerator denominator : Nat) :
    IsRepresentable (nearestUnits numerator denominator) := by
  rw [nearestUnits, spacing_eq]
  generalize same : numerator / denominator = quotient
  have short : quotient / 2 ^ (quotient.log2 - 52) < 2 ^ 53 := by
    rw [Nat.div_lt_iff_lt_mul (Nat.two_pow_pos _), ← Nat.pow_add]
    exact Nat.lt_of_lt_of_le Nat.lt_log2_self (Nat.pow_le_pow_right (by decide) (by omega))
  apply isRepresentable_of_mul
  have rounded := roundHalfEven_le numerator (denominator * 2 ^ (quotient.log2 - 52))
  rw [← Nat.div_div_eq_div_mul, same] at rounded
  omega

/-! ## Magnitudes that are read -/

theorem isRepresentable_zero : IsRepresentable 0 :=
  Nat.dvd_zero _

/-- Dividing in steps ends with something rounded, if there is a step at all. -/
theorem isRepresentable_divTenPower (fuel : Nat) {units exponent : Nat}
    (representable : IsRepresentable units) :
    IsRepresentable (divTenPower fuel units exponent) := by
  induction fuel generalizing units exponent with
  | zero => exact representable
  | succ fuel induction_hypothesis =>
      rw [divTenPower]
      split
      · exact isRepresentable_nearestUnits _ _
      · split
        · exact isRepresentable_zero
        · exact induction_hypothesis (isRepresentable_nearestUnits _ _)

/-- Whatever decimal is scaled, the result is representable. -/
theorem isRepresentable_of_scaledUnits? {significand units : Nat} {exponent : Int}
    (found : scaledUnits? significand exponent = some units) : IsRepresentable units := by
  simp only [scaledUnits?] at found
  split at found
  · cases found
    exact isRepresentable_divTenPower _ (isRepresentable_nearestUnits _ _)
  · split at found
    · split at found
      · cases found
        exact isRepresentable_nearestUnits _ _
      · cases found
    · split at found
      · cases found
        exact isRepresentable_zero
      · cases found

/-! ## The interval of a double -/

/-- How far the interval of a magnitude reaches down, in quarters of a unit. -/
def reachBelow (units : Nat) : Nat :=
  if units = 1 <<< units.log2 && 1 < spacing units then spacing units else 2 * spacing units

/-- Whether a fraction is in the interval of a magnitude. -/
structure Owns (units numerator denominator : Nat) : Prop where
  above : 4 * (units * denominator) ≤ 4 * numerator + reachBelow units * denominator
  below : 4 * numerator ≤ 4 * (units * denominator) + 2 * (spacing units * denominator)
  ends : 4 * (units * denominator) = 4 * numerator + reachBelow units * denominator ∨
    4 * numerator = 4 * (units * denominator) + 2 * (spacing units * denominator) →
      ownsEnds units = true

theorem reachBelow_le (units : Nat) : reachBelow units ≤ 2 * spacing units := by
  rw [reachBelow]
  split
  · omega
  · exact Nat.le_refl _

variable {units numerator denominator : Nat}

/-- On the grid of the magnitude itself, what is in its interval is rounded to it. -/
theorem nearestUnits_of_same_grid (positive : 0 < denominator)
    (representable : IsRepresentable units) (owns : Owns units numerator denominator)
    (grid : spacing (numerator / denominator) = spacing units) :
    nearestUnits numerator denominator = units := by
  rcases owns with ⟨above, below, ends⟩
  rcases representable with ⟨factor, multiple⟩
  have step_positive := spacing_positive units
  have reach : reachBelow units * denominator ≤ 2 * (spacing units * denominator) := by
    rw [← Nat.mul_assoc]
    exact Nat.mul_le_mul_right _ (reachBelow_le units)
  have even_factor : ownsEnds units = true → factor % 2 = 0 := by
    intro even
    have quotient : units / spacing units = factor :=
      Nat.div_eq_of_eq_mul_right step_positive multiple
    simpa [ownsEnds, quotient] using even
  rw [nearestUnits, grid]
  generalize spacing units = step at *
  have whole : factor * (denominator * step) = units * denominator := by
    rw [multiple]
    ring
  rw [Nat.mul_comm step denominator] at *
  have rounds : roundHalfEven numerator (denominator * step) = factor := by
    apply roundHalfEven_eq (Nat.mul_pos positive step_positive)
    · rw [whole]
      omega
    · rw [whole]
      omega
    · rw [whole]
      intro tie
      apply even_factor
      apply ends
      omega
  rw [rounds, multiple, Nat.mul_comm]

/-- Below a power of two, what is in its interval is rounded to it on the finer grid. -/
theorem nearestUnits_of_finer_grid (positive : 0 < denominator)
    (representable : IsRepresentable units) (owns : Owns units numerator denominator)
    (reach : reachBelow units = spacing units) (smaller : numerator < units * denominator)
    (grid : spacing units = 2 * spacing (numerator / denominator)) :
    nearestUnits numerator denominator = units := by
  rcases owns with ⟨above, -, -⟩
  rcases representable with ⟨factor, multiple⟩
  rw [reach] at above
  have step_positive := spacing_positive (numerator / denominator)
  rw [nearestUnits]
  generalize spacing (numerator / denominator) = step at *
  rw [grid] at multiple above
  have whole : 2 * factor * (denominator * step) = units * denominator := by
    rw [multiple]
    ring
  have quarter : 2 * step * denominator = 2 * (denominator * step) := by ring
  rw [quarter] at above
  have rounds : roundHalfEven numerator (denominator * step) = 2 * factor := by
    apply roundHalfEven_eq (Nat.mul_pos positive step_positive)
    · rw [whole]
      omega
    · rw [whole]
      omega
    · intro _
      exact Nat.mul_mod_right 2 factor
  rw [rounds, multiple]
  ring

/-- Between a representable magnitude and the next power of two there is room for a step. -/
theorem add_spacing_le {power : Nat} (multiple : spacing units ∣ power)
    (representable : IsRepresentable units) (below : units < power) :
    units + spacing units ≤ power := by
  rcases representable with ⟨factor, same⟩
  rcases multiple with ⟨other, rfl⟩
  generalize spacing units = step at *
  have fewer : factor < other := by
    rw [same] at below
    exact Nat.lt_of_mul_lt_mul_left below
  calc units + step = step * (factor + 1) := by rw [same]; ring
    _ ≤ step * other := Nat.mul_le_mul_left _ fewer

theorem spacing_dvd_two_pow {exponent : Nat} (fits : units.log2 ≤ exponent) :
    spacing units ∣ 2 ^ exponent := by
  rw [spacing_eq]
  exact Nat.pow_dvd_pow 2 (by omega)

theorem log2_eq {number exponent : Nat} (low : 2 ^ exponent ≤ number)
    (high : number < 2 ^ (exponent + 1)) : number.log2 = exponent := by
  have not_zero : number ≠ 0 := Nat.ne_of_gt (Nat.lt_of_lt_of_le (Nat.two_pow_pos exponent) low)
  exact (Nat.log2_eq_iff not_zero).mpr ⟨low, high⟩

/-- What is in the interval of a double is rounded to it. -/
theorem nearestUnits_of_owns (positive : 0 < denominator) (not_zero : units ≠ 0)
    (representable : IsRepresentable units) (owns : Owns units numerator denominator) :
    nearestUnits numerator denominator = units := by
  have at_least : 2 ^ units.log2 ≤ units := Nat.log2_self_le not_zero
  have within_next : units + spacing units ≤ 2 ^ (units.log2 + 1) :=
    add_spacing_le (spacing_dvd_two_pow (by omega)) representable Nat.lt_log2_self
  have step_positive : 0 < spacing units * denominator :=
    Nat.mul_pos (spacing_positive units) positive
  have below_next : numerator / denominator < 2 ^ (units.log2 + 1) := by
    rw [Nat.div_lt_iff_lt_mul positive]
    have room : (units + spacing units) * denominator ≤ 2 ^ (units.log2 + 1) * denominator :=
      Nat.mul_le_mul_right _ within_next
    have below := owns.below
    rw [Nat.add_mul] at room
    omega
  by_cases same_binade : 2 ^ units.log2 ≤ numerator / denominator
  · apply nearestUnits_of_same_grid positive representable owns
    rw [spacing_eq, spacing_eq, log2_eq same_binade below_next]
  -- The fraction lies below the power of two that the magnitude reaches up to.
  have smaller : numerator < 2 ^ units.log2 * denominator := by
    rw [← Nat.div_lt_iff_lt_mul positive]
    omega
  by_cases coarsest : units.log2 ≤ 52
  · apply nearestUnits_of_same_grid positive representable owns
    have short : 2 ^ units.log2 ≤ 2 ^ 52 := Nat.pow_le_pow_right (by decide) coarsest
    rw [spacing_eq units, spacing, if_pos (by rw [Nat.one_shiftLeft]; omega),
      Nat.sub_eq_zero_of_le coarsest, Nat.pow_zero]
  have is_power : units = 2 ^ units.log2 := by
    by_contra different
    have above_power : 2 ^ units.log2 + spacing units ≤ units := by
      have divides := Nat.dvd_sub representable (spacing_dvd_two_pow (Nat.le_refl units.log2))
      have step_le := Nat.le_of_dvd (by omega) divides
      omega
    have far := Nat.mul_le_mul_right denominator above_power
    have reach := Nat.mul_le_mul_right denominator (reachBelow_le units)
    have above := owns.above
    rw [Nat.add_mul] at far
    rw [Nat.mul_assoc] at reach
    omega
  have halved : 2 ^ units.log2 = 2 * 2 ^ (units.log2 - 1) := by
    rw [← Nat.pow_succ']
    congr 1
    omega
  have step_halved : spacing units = 2 * 2 ^ (units.log2 - 1 - 52) := by
    rw [spacing_eq, ← Nat.pow_succ']
    congr 1
    omega
  have reach : reachBelow units = spacing units := by
    have coarse : 1 < spacing units := by
      have := Nat.two_pow_pos (units.log2 - 1 - 52)
      omega
    rw [reachBelow, Nat.one_shiftLeft, if_pos]
    simpa [coarse] using is_power
  have low : 2 ^ (units.log2 - 1) ≤ numerator / denominator := by
    have above := owns.above
    have step_le := Nat.mul_le_mul_right denominator (spacing_le (Nat.pos_of_ne_zero not_zero))
    have power := congrArg (· * denominator) (is_power.trans halved)
    rw [Nat.le_div_iff_mul_le positive]
    rw [reach] at above
    simp only [Nat.mul_assoc] at power
    omega
  apply nearestUnits_of_finer_grid positive representable owns reach
  · rw [← is_power] at smaller
    exact smaller
  · have next : units.log2 - 1 + 1 = units.log2 := by omega
    rw [step_halved, spacing_eq (numerator / denominator), log2_eq low]
    rw [next]
    omega

end NetworkIsolation.Decimal.Double
