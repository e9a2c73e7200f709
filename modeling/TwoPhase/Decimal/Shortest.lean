/-!
# Shortest decimals

A positive binary value `m · 2^q` stands for every real that rounds to it: the interval
around it that reaches half way to its two neighbours. `Binary.shortest` finds the decimal
`d · 10^k` of that interval with the largest `k`, hence the fewest digits, and of two such
decimals the nearer one.

The search goes from coarse grids to fine ones. On the multiples of `10^k` only the two
neighbours of the value need a test, since the interval is convex and contains the value.
All comparisons are exact: both sides are scaled to natural numbers. Lengths are counted in
quarters of the unit `2^q`, so that the half-way points are whole.
-/

namespace TwoPhase.Decimal

/-- A positive binary value together with the shape of its rounding interval. -/
structure Binary where
  /-- The significand `m`. -/
  significand : Nat
  /-- The binary exponent `q`. -/
  exponent : Int
  /-- The neighbour below is half as far away as the one above: the value is a power of two. -/
  closeBelow : Bool
deriving DecidableEq, Repr

namespace Binary

/-- The lower end of the rounding interval, in quarter units. -/
def lower (b : Binary) : Nat := 4 * b.significand - (if b.closeBelow then 1 else 2)

/-- The value itself, in quarter units. -/
def middle (b : Binary) : Nat := 4 * b.significand

/-- The upper end of the rounding interval, in quarter units. -/
def upper (b : Binary) : Nat := 4 * b.significand + 2

/-- The ends round to the value themselves exactly when the significand is even. -/
def closed (b : Binary) : Bool := b.significand % 2 == 0

/-- A number of quarter units, scaled for comparison with `stride`. -/
def scaled (b : Binary) (k : Int) (quarters : Nat) : Nat :=
  quarters * Nat.pow 2 (b.exponent - 2).toNat * Nat.pow 10 (-k).toNat

/-- The distance `10^k` between two points of a grid, scaled for comparison with `scaled`. -/
def stride (b : Binary) (k : Int) : Nat :=
  Nat.pow 10 k.toNat * Nat.pow 2 (2 - b.exponent).toNat

/-- Whether the grid point `d · 10^k` rounds to the value. -/
def covers (b : Binary) (k : Int) (d : Nat) : Bool :=
  let point := d * b.stride k
  (b.scaled k b.lower < point && point < b.scaled k b.upper) ||
    (b.closed && (point == b.scaled k b.lower || point == b.scaled k b.upper))

/-- The grid point at or below the value. -/
def floorOn (b : Binary) (k : Int) : Nat := b.scaled k b.middle / b.stride k

/-- Whether the grid point below the value is strictly nearer than the one above. -/
def nearerBelow (b : Binary) (k : Int) : Bool :=
  2 * (b.scaled k b.middle % b.stride k) < b.stride k

/-- The point of the grid that stands for the value, if one does: of two the nearer one, and
the greater one if they are equally near. -/
def pick (b : Binary) (k : Int) : Option Nat :=
  let below := b.floorOn k
  match b.covers k below, b.covers k (below + 1) with
  | true, true => some (if b.nearerBelow k then below else below + 1)
  | true, false => some below
  | false, true => some (below + 1)
  | false, false => none

/-- How far below the decimal point the finest grid lies: its stride is no longer than a
quarter unit, so it has a point in every rounding interval. -/
def depth (b : Binary) : Nat := (2 - b.exponent).toNat

/-- Searches the grids from exponent `steps - depth` down to the finest one. -/
def search (b : Binary) : Nat → Nat × Int
  | 0 => (b.floorOn (-(b.depth : Int)), -(b.depth : Int))
  | steps + 1 =>
      let k : Int := (steps + 1 : Nat) - (b.depth : Int)
      match b.pick k with
      | some d => (d, k)
      | none => b.search steps

/-- An exponent whose grid is too coarse to be of interest: more digits than the integer part
of the value has. -/
def top (b : Binary) : Nat :=
  let whole := b.significand * Nat.pow 2 b.exponent.toNat / Nat.pow 2 (-b.exponent).toNat
  (Nat.toDigits 10 whole).length

/-- The decimal `d · 10^k` with the fewest digits that rounds to the value. -/
def shortest (b : Binary) : Nat × Int := b.search (b.top + b.depth)

end Binary

/-- A decimal `d · 10^k` in positional notation: no exponent, and no point in an integer. -/
def positional (d : Nat) (k : Int) : List Char :=
  let digits := Nat.toDigits 10 d
  if 0 ≤ k then digits ++ List.replicate k.toNat '0'
  else
    let places := (-k).toNat
    if places < digits.length then
      digits.take (digits.length - places) ++ '.' :: digits.drop (digits.length - places)
    else ['0', '.'] ++ List.replicate (places - digits.length) '0' ++ digits

end TwoPhase.Decimal
