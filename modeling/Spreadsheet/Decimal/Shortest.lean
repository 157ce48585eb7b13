/-!
# The shortest decimal of a binary value

A positive binary value stands for every real number that rounds to it. Among
the grids of multiples of a power of ten, `Dyadic.shortest` takes the coarsest
one with a point in that interval, and on it the point nearest to the value.
A coarser grid means fewer digits, so no decimal with fewer digits reads back,
and the chosen digits never end in zero. All of it is exact integer arithmetic.
-/

namespace Spreadsheet.Decimal

/-- The decimal `digits * 10 ^ exponent`. -/
structure Scaled where
  digits : Nat
  exponent : Int
deriving DecidableEq, Repr

/-- Which of two equally near decimals is taken. -/
inductive Tie where
  | toEven
  | awayFromZero
deriving DecidableEq, Repr

/-- The positive binary value `significand * 2 ^ exponent`. -/
structure Dyadic where
  significand : Nat
  exponent : Int
deriving DecidableEq, Repr

namespace Dyadic

/-- Whether the gap to the value below is half the gap to the value above: so it
is at a power of two, unless the value below has the least exponent too. -/
def narrowBelow (value : Dyadic) : Bool :=
  value.significand == Nat.pow 2 52 && value.exponent > -1074

/-- The lower end of the rounding interval, in quarters of the gap above. -/
def lowerEnd (value : Dyadic) : Nat :=
  if value.narrowBelow then 4 * value.significand - 1 else 4 * value.significand - 2

/-- The upper end of the rounding interval, in quarters of the gap above. -/
def upperEnd (value : Dyadic) : Nat :=
  4 * value.significand + 2

/-- Ties round to even, so the ends belong to the interval of an even significand. -/
def endsIncluded (value : Dyadic) : Bool :=
  value.significand % 2 == 0

/-- The length of `10 ^ power` on the scale that quarters of the gap and powers
of ten have in common. -/
def gridStep (value : Dyadic) (power : Int) : Nat :=
  Nat.pow 10 power.toNat * Nat.pow 2 (2 - value.exponent).toNat

/-- The length of a quarter of the gap on that same scale. -/
def quarterStep (value : Dyadic) (power : Int) : Nat :=
  Nat.pow 2 (value.exponent - 2).toNat * Nat.pow 10 (-power).toNat

/-- Whether `multiple * 10 ^ power` lies in the rounding interval. -/
def admits (value : Dyadic) (power : Int) (multiple : Nat) : Bool :=
  let point := multiple * value.gridStep power
  let lower := value.lowerEnd * value.quarterStep power
  let upper := value.upperEnd * value.quarterStep power
  (lower < point && point < upper) || (value.endsIncluded && (lower == point || point == upper))

/-- The point of the grid of multiples of `10 ^ power` that lies in the rounding
interval and is nearest to the value, if a point lies there at all. -/
def nearestOn (value : Dyadic) (tie : Tie) (power : Int) : Option Nat :=
  let centre := 4 * value.significand * value.quarterStep power
  let step := value.gridStep power
  let below := centre / step
  match value.admits power below, value.admits power (below + 1) with
  | false, false => none
  | true, false => some below
  | false, true => some (below + 1)
  | true, true =>
    match compare (2 * centre) ((2 * below + 1) * step), tie with
    | .lt, _ => some below
    | .gt, _ => some (below + 1)
    | .eq, .awayFromZero => some (below + 1)
    | .eq, .toEven => some (if below % 2 == 0 then below else below + 1)

/-- The value is below `10 ^ coarsestPower`, and no coarser grid needs a look. -/
def coarsestPower (value : Dyadic) : Int :=
  ((value.significand.log2 + 1 : Int) + value.exponent) * 30103 / 100000 + 2

/-- The value itself in decimal, with all its digits. -/
def exactly (value : Dyadic) : Scaled :=
  if 0 ≤ value.exponent then ⟨value.significand * Nat.pow 2 value.exponent.toNat, 0⟩
  else ⟨value.significand * Nat.pow 5 (-value.exponent).toNat, value.exponent⟩

/-- The nearest point of the coarsest grid that has one in the rounding interval.
Seventeen digits identify a binary64 value, so the search ends within the range. -/
def shortest (value : Dyadic) (tie : Tie) : Scaled :=
  let found := (List.range 24).findSome? fun (finer : Nat) =>
    let power := value.coarsestPower - finer
    (value.nearestOn tie power).map fun digits => ⟨digits, power⟩
  found.getD value.exactly

end Dyadic

end Spreadsheet.Decimal
