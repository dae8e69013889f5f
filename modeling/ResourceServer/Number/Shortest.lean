import ResourceServer.Number.Binary

namespace ResourceServer

/-!
# The shortest decimal that reads back

A binary number is written with the fewest decimal digits that no other number
of its format is nearer to. The numbers that round to it form an interval
around it, which includes its ends exactly when the significand is even. The
grids of one digit, two digits and so on are searched in turn; the first one
with a point in the interval gives the digits, the nearer of two.
-/

/-- The decimal number `digits * 10 ^ exponent`. -/
structure Decimal where
  digits : Nat
  exponent : Int
deriving Repr, DecidableEq

/-- The numbers that round to one magnitude, in quarters of its last place. -/
structure RoundingInterval where
  /-- The magnitude itself. -/
  value : Nat
  low : Nat
  high : Nat
  /-- Whether the two ends belong to the interval. -/
  closed : Bool
  /-- The power of two that one quarter stands for. -/
  exponent : Int
deriving Repr, DecidableEq

namespace RoundingInterval

/-- The interval around a finite positive magnitude of a format. -/
def around (format : BinaryFormat) (magnitude : Nat) : RoundingInterval :=
  let parts := format.parts magnitude
  let gapHalves :=
    parts.1 = format.stride ∧ parts.2 ≠ format.leastExponent
  {
    value := 4 * parts.1
    low := 4 * parts.1 - (if gapHalves then 1 else 2)
    high := 4 * parts.1 + 2
    closed := parts.1 % 2 = 0
    exponent := parts.2 - 2
  }

/-- Quarters per unit of the grid of multiples of `10 ^ grid`, as a fraction. -/
def scales (interval : RoundingInterval) (grid : Int) : Nat × Nat :=
  (Nat.pow 2 interval.exponent.toNat * Nat.pow 10 (-grid).toNat,
    Nat.pow 2 (-interval.exponent).toNat * Nat.pow 10 grid.toNat)

/-- Whether a point of the grid lies in the interval. -/
def holds (interval : RoundingInterval) (grid : Int) (point : Nat) : Bool :=
  let (unit, step) := interval.scales grid
  if interval.closed then
    interval.low * unit ≤ point * step && point * step ≤ interval.high * unit
  else
    interval.low * unit < point * step && point * step < interval.high * unit

/-- The point of the grid in the interval that is nearest to the value. -/
def pointOn? (interval : RoundingInterval) (grid : Int) : Option Nat :=
  let (unit, step) := interval.scales grid
  let below := interval.value * unit / step
  let distanceBelow := interval.value * unit - below * step
  let distanceAbove := (below + 1) * step - interval.value * unit
  match interval.holds grid below, interval.holds grid (below + 1) with
  | true, false => some below
  | false, true => some (below + 1)
  | true, true =>
      if distanceBelow < distanceAbove then some below
      else if distanceAbove < distanceBelow then some (below + 1)
      else if below % 2 = 0 then some below
      else some (below + 1)
  | false, false => none

/-- Search finer and finer grids, `attempts` of them. -/
def search
    (interval : RoundingInterval)
    (attempts : Nat)
    (grid : Int) :
    Decimal :=
  match attempts with
  | 0 => ⟨interval.value, grid⟩
  | attempts + 1 =>
      match interval.pointOn? grid with
      | some 0 => interval.search attempts (grid - 1)
      | some point => ⟨point, grid⟩
      | none => interval.search attempts (grid - 1)

end RoundingInterval

namespace Binary

variable {format : BinaryFormat}

/-- The shortest decimal that rounds to a finite magnitude. -/
def shortest (value : Binary format) : Decimal :=
  if value.magnitude = 0 then
    ⟨0, 0⟩
  else
    let parts := format.parts value.magnitude
    let bits : Int := parts.1.log2 + 1 + parts.2
    let coarsest := bits * 30103 / 100000 + 1
    (RoundingInterval.around format value.magnitude).search 22 coarsest

end Binary

end ResourceServer
