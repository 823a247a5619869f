import NetworkIsolation.Decimal.Double

/-!
# The shortest decimal of a double

Every double owns the interval of numbers that round to it.  `shortest` gives
the decimal with the fewest digits inside that interval, and of those the one
nearest to the double.  It tries one, two, up to seventeen digits; for each
count it tests the two neighbours of the double on that decimal grid in exact
arithmetic.

`Layout` says how a format writes those digits.
-/

namespace NetworkIsolation.Decimal

/-- The decimal `0.d₁d₂…dₙ * 10 ^ (exponent + 1)`, that is `d₁.d₂…dₙ * 10 ^ exponent`. -/
structure Digits where
  digits : List Char
  exponent : Int
  deriving DecidableEq, Repr

namespace Double

/-- The decimal exponent of the leading digit of a positive magnitude. -/
def leadingExponent (units : Nat) : Int :=
  let shifted := units * Nat.pow 10 400 / unitsPerOne
  ((Nat.toDigits 10 shifted).length : Int) - 401

/--
Four times the ends of the interval of magnitudes that round to the given one.
The doubles below a power of two lie twice as close.
-/
def quarterInterval (units : Nat) : Nat × Nat :=
  let step := spacing units
  let below := if units = 1 <<< units.log2 && 1 < step then step else 2 * step
  (4 * units - below, 4 * units + 2 * step)

/-- Whether the ends of the interval round to the magnitude too. -/
def ownsEnds (units : Nat) : Bool :=
  units / spacing units % 2 = 0

/-- Whether `multiple * 10 ^ exponent` rounds to the magnitude. -/
def ownsDecimal (units multiple : Nat) (exponent : Int) : Bool :=
  let (low, high) := quarterInterval units
  let numerator := 4 * unitsPerOne * multiple *
    (if 0 ≤ exponent then Nat.pow 10 exponent.toNat else 1)
  let denominator := if 0 ≤ exponent then 1 else Nat.pow 10 exponent.natAbs
  if ownsEnds units then
    low * denominator ≤ numerator && numerator ≤ high * denominator
  else
    low * denominator < numerator && numerator < high * denominator

/-- The multiples of `10 ^ exponent` next to a magnitude, the nearer one first. -/
def gridNeighbours (units : Nat) (exponent : Int) : List Nat :=
  let numerator := units * (if 0 ≤ exponent then 1 else Nat.pow 10 exponent.natAbs)
  let denominator := unitsPerOne * (if 0 ≤ exponent then Nat.pow 10 exponent.toNat else 1)
  let below := numerator / denominator
  let twice := 2 * (numerator % denominator)
  if twice < denominator || (twice = denominator && below % 2 = 0) then
    [below, below + 1]
  else
    [below + 1, below]

/-- The first grid of at most the given number of further digits that has a hit. -/
def searchGrids (units : Nat) (leading : Int) : Nat → Nat → Nat × Int
  | 0, _ => (0, 0)
  | fuel + 1, count =>
    let exponent := leading - (count : Int) + 1
    match (gridNeighbours units exponent).find? fun multiple =>
        ownsDecimal units multiple exponent with
    | some multiple => (multiple, exponent)
    | none => searchGrids units leading fuel (count + 1)

end Double

/-- The significant digits of `multiple * 10 ^ exponent`. -/
def Digits.ofMultiple (multiple : Nat) (exponent : Int) : Digits :=
  let written := Nat.toDigits 10 multiple
  ⟨(written.reverse.dropWhile (· = '0')).reverse, exponent + (written.length : Int) - 1⟩

/-- The shortest decimal that rounds to a positive magnitude. -/
def Double.shortest (units : Nat) : Digits :=
  let found := searchGrids units (leadingExponent units) 18 1
  .ofMultiple found.1 found.2

/-- How a format writes the shortest digits of a double. -/
structure Layout where
  /-- The least leading exponent that is written without an exponent. -/
  positionalFrom : Int
  /-- The largest leading exponent that is written without an exponent. -/
  positionalTo : Int
  /-- What a whole number in positional form ends with. -/
  wholeSuffix : List Char
  /-- What stands between the digits and the exponent. -/
  exponentMark : List Char
  /-- Whether an exponent above zero carries a sign. -/
  plusSign : Bool

namespace Layout

/-- The digits of an integer after an optional sign. -/
def exponentText (layout : Layout) (exponent : Int) : List Char :=
  let digits := Nat.toDigits 10 exponent.natAbs
  if exponent < 0 then '-' :: digits
  else if layout.plusSign then '+' :: digits
  else digits

/-- The digits with the point after the leading digit and an exponent. -/
def scientific (layout : Layout) (number : Digits) : List Char :=
  let mantissa :=
    match number.digits with
    | [] => []
    | [digit] => [digit]
    | digit :: rest => digit :: '.' :: rest
  mantissa ++ layout.exponentMark ++ layout.exponentText number.exponent

/-- The digits with zeros put in so that no exponent is needed. -/
def positional (layout : Layout) (number : Digits) : List Char :=
  if number.exponent < 0 then
    ['0', '.'] ++ List.replicate (number.exponent.natAbs - 1) '0' ++ number.digits
  else
    let wholeLength := number.exponent.toNat + 1
    let whole := number.digits.take wholeLength
    let fraction := number.digits.drop wholeLength
    if fraction.isEmpty then
      whole ++ List.replicate (wholeLength - whole.length) '0' ++ layout.wholeSuffix
    else
      whole ++ '.' :: fraction

/-- The text of a double. -/
def write (layout : Layout) (number : Double) : List Char :=
  let magnitude :=
    if number.units = 0 then
      layout.positional ⟨['0'], 0⟩
    else
      let digits := Double.shortest number.units
      if layout.positionalFrom ≤ digits.exponent && digits.exponent ≤ layout.positionalTo then
        layout.positional digits
      else
        layout.scientific digits
  if number.negative then '-' :: magnitude else magnitude

end Layout

end NetworkIsolation.Decimal
