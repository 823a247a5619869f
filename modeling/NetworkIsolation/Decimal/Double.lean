/-!
# Double-precision numbers

A finite double is a sign and a whole number of units, where one unit is the
smallest positive double, `2 ^ (-1074)`.  Every finite double is such a
multiple, so products and quotients are exact fractions of units until they
are rounded once, to the nearest double and to the even one of two.
-/

namespace NetworkIsolation.Decimal

/-- A finite double: a sign, and a magnitude in units of `2 ^ (-1074)`. -/
structure Double where
  negative : Bool
  units : Nat
  deriving DecidableEq, Repr, Inhabited

namespace Double

/-- The units in the number one. -/
@[irreducible]
def unitsPerOne : Nat := 1 <<< 1074

/-- The first magnitude beyond the largest finite double. -/
def overflowUnits : Nat := 1 <<< 2098

/-- The distance between a magnitude's double and the next larger one. -/
def spacing (units : Nat) : Nat :=
  if units < 1 <<< 53 then 1 else 1 <<< (units.log2 + 1 - 53)

/-- A fraction rounded to a whole number, a half going to the even one. -/
def roundHalfEven (numerator denominator : Nat) : Nat :=
  let quotient := numerator / denominator
  let twice := 2 * (numerator % denominator)
  if twice < denominator then quotient
  else if denominator < twice then quotient + 1
  else if quotient % 2 = 0 then quotient
  else quotient + 1

/-- The magnitude of a double nearest to a fraction of units. -/
def nearestUnits (numerator denominator : Nat) : Nat :=
  let step := spacing (numerator / denominator)
  roundHalfEven numerator (denominator * step) * step

/-- The product of two magnitudes, rounded. -/
def mulUnits (left right : Nat) : Nat :=
  nearestUnits (left * right) unitsPerOne

/-- The quotient of two magnitudes, rounded. -/
def divUnits (left right : Nat) : Nat :=
  nearestUnits (left * unitsPerOne) right

/-- The largest power of ten that is still a finite double is `10 ^ 308`. -/
def maxTenPower : Nat := 308

/-- The magnitude of the double nearest to a power of ten. -/
def tenPowerUnits (exponent : Nat) : Nat :=
  nearestUnits (Nat.pow 10 exponent * unitsPerOne) 1

/-- Divide by a power of ten, in steps that each stay within the finite powers. -/
def divTenPower : Nat → Nat → Nat → Nat
  | 0, units, _ => units
  | fuel + 1, units, exponent =>
    if exponent ≤ maxTenPower then
      divUnits units (tenPowerUnits exponent)
    else if units = 0 then
      0
    else
      divTenPower fuel (divUnits units (tenPowerUnits maxTenPower)) (exponent - maxTenPower)

/--
The magnitude of `significand * 10 ^ exponent` in floating-point steps: the
significand is rounded first, and the product or quotient with the power of
ten once more.  There is none when the result is too large.
-/
def scaledUnits? (significand : Nat) (exponent : Int) : Option Nat :=
  let start := nearestUnits (significand * unitsPerOne) 1
  if exponent < 0 then
    some (divTenPower (exponent.natAbs / maxTenPower + 1) start exponent.natAbs)
  else if exponent.natAbs ≤ maxTenPower then
    let product := mulUnits start (tenPowerUnits exponent.natAbs)
    if product < overflowUnits then some product else none
  else if start = 0 then
    some 0
  else
    none

end Double

end NetworkIsolation.Decimal
