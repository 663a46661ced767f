import KeyPath.Number.Binary64
/-!
# The fewest digits that identify a number

The decimals that round to a given finite number fill an interval, whose ends belong to it when
the significand is even. Of the decimals in that interval those with the fewest digits are
wanted, and of these the nearest to the number.
-/

namespace KeyPath

/-- The decimal `coefficient * 10 ^ exponent`. -/
structure Decimal where
  coefficient : Nat
  exponent : Int
  deriving DecidableEq, Repr, Inhabited

namespace Decimal

/-- Which way a tie between two equally near decimals goes. -/
inductive Tie where
  | up
  | toEven
  deriving DecidableEq, Repr

/-- Drop up to a given number of zeros from the end of a coefficient. -/
def trim : Nat → Decimal → Decimal
  | 0, x => x
  | n + 1, x =>
    if x.coefficient % 10 = 0 then trim n ⟨x.coefficient / 10, x.exponent + 1⟩ else x

/-- A positive number `significand * 2 ^ exponent` beside the grid of multiples of
`10 ^ gridExponent`: quarters of the unit in the last place count `quarter` each, and one step
of the grid counts `step`. -/
structure Grid where
  quarter : Nat
  step : Nat

namespace Grid

def ofExponents (exponent gridExponent : Int) : Grid where
  quarter := twoTo (exponent - 2).toNat * tenTo (-gridExponent).toNat
  step := twoTo (2 - exponent).toNat * tenTo gridExponent.toNat

end Grid

/-- The least exponent of ten whose power exceeds a positive number. -/
def ceilingExponent (significand : Nat) (exponent : Int) : Int :=
  let guess := ((significand.log2 : Int) + exponent) * 30103 / 100000
  let exceeds (e : Int) : Bool :=
    let grid := Grid.ofExponents exponent e
    4 * significand * grid.quarter < grid.step
  if exceeds guess then guess else if exceeds (guess + 1) then guess + 1 else guess + 2

/-- Whether a multiple of the grid step rounds to the number. The gap below a power of two is
half the gap above it. -/
def isInside (significand : Nat) (exponent : Int) (grid : Grid) (multiple : Nat) : Bool :=
  let gapBelow := if significand = twoTo 52 ∧ exponent ≠ -1074 then 1 else 2
  let low := (4 * significand - gapBelow) * grid.quarter
  let high := (4 * significand + 2) * grid.quarter
  let here := multiple * grid.step
  if significand % 2 = 0 then low ≤ here && here ≤ high else low < here && here < high

/-- The nearest decimal with a given number of digits among those that round to the number. -/
def nearest? (tie : Tie) (significand : Nat) (exponent : Int) (gridExponent : Int) :
    Option Decimal :=
  let grid := Grid.ofExponents exponent gridExponent
  let exact := 4 * significand * grid.quarter
  let below := exact / grid.step
  let inside := isInside significand exponent grid
  let twice := 2 * (exact % grid.step)
  let belowIsNearer : Bool :=
    twice < grid.step || (twice == grid.step && tie == .toEven && below % 2 == 0)
  if inside below && (belowIsNearer || !inside (below + 1)) then some ⟨below, gridExponent⟩
  else if inside (below + 1) then some ⟨below + 1, gridExponent⟩
  else none

/-- The shortest decimal that rounds to the positive number `significand * 2 ^ exponent`; 17
digits always suffice. -/
def shortest (tie : Tie) (significand : Nat) (exponent : Int) : Decimal :=
  let ceiling := ceilingExponent significand exponent
  let found := (List.range 17).findSome? fun (digits : Nat) =>
    nearest? tie significand exponent (ceiling - digits - 1)
  trim 17 (found.getD ⟨0, 0⟩)

end Decimal

end KeyPath
