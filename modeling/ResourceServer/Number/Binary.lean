namespace ResourceServer

/-!
# Binary floating-point numbers

Numbers of IEEE 754 interchange formats, held as a sign and the remaining bits
read as one natural number. In that form larger magnitudes have larger bits,
so the total order of the format is the order of an integer. Every operation
computes an exact quotient first and rounds once, to the nearest number and on
a tie to the even one.
-/

/-- A binary interchange format. -/
structure BinaryFormat where
  /-- Bits of the significand, the leading one included. -/
  precision : Nat
  /-- Bits of the exponent. -/
  width : Nat
deriving Repr, DecidableEq

namespace BinaryFormat

/-- The format of sixty-four bits. -/
def double : BinaryFormat := ⟨53, 11⟩

/-- The format of thirty-two bits. -/
def single : BinaryFormat := ⟨24, 8⟩

/-- Magnitudes of one exponent, apart from their leading bit. -/
def stride (format : BinaryFormat) : Nat :=
  Nat.pow 2 (format.precision - 1)

/-- The magnitude bits of infinity; those above are not numbers. -/
def infinity (format : BinaryFormat) : Nat :=
  (Nat.pow 2 format.width - 1) * format.stride

/-- The weight of the last place of the smallest numbers, as a power of two. -/
def leastExponent (format : BinaryFormat) : Int :=
  3 - Nat.pow 2 (format.width - 1) - format.precision

/-- The integer and the power of two whose product is the finite magnitude. -/
def parts (format : BinaryFormat) (magnitude : Nat) : Nat × Int :=
  let biased := magnitude / format.stride
  let fraction := magnitude % format.stride
  if biased = 0 then
    (fraction, format.leastExponent)
  else
    (fraction + format.stride, format.leastExponent + biased - 1)

/-- The integer nearest to a quotient, the even one of two. -/
def nearestEven (numerator denominator : Nat) : Nat :=
  let quotient := numerator / denominator
  let twiceRemainder := 2 * (numerator % denominator)
  if twiceRemainder < denominator then quotient
  else if denominator < twiceRemainder then quotient + 1
  else if quotient % 2 = 0 then quotient
  else quotient + 1

/-- The power of two below a positive quotient, or at it. -/
def quotientExponent (numerator denominator : Nat) : Int :=
  let estimate : Int := numerator.log2 - denominator.log2
  if denominator * Nat.pow 2 estimate.toNat ≤ numerator * Nat.pow 2 (-estimate).toNat then
    estimate
  else
    estimate - 1

/-- The magnitude nearest to a quotient of natural numbers. -/
def round (format : BinaryFormat) (numerator denominator : Nat) : Nat :=
  if numerator = 0 then
    0
  else
    let exponent :=
      max
        (quotientExponent numerator denominator - (format.precision - 1))
        format.leastExponent
    let significand :=
      nearestEven
        (numerator * Nat.pow 2 (-exponent).toNat)
        (denominator * Nat.pow 2 exponent.toNat)
    min
      ((exponent - format.leastExponent).toNat * format.stride + significand)
      format.infinity

end BinaryFormat

/-- A number of a binary interchange format. -/
structure Binary (format : BinaryFormat) where
  /-- Whether the sign bit is set. -/
  negative : Bool
  /-- The other bits. -/
  magnitude : Nat
deriving Repr, DecidableEq

namespace Binary

variable {format : BinaryFormat}

/-- The number zero with the sign bit clear. -/
def zero : Binary format := ⟨false, 0⟩

/-- The number one. -/
def one : Binary format := ⟨false, format.round 1 1⟩

/-- The quiet number that stands for no number. -/
def notANumber : Binary format :=
  ⟨false, format.infinity + format.stride / 2⟩

/-- Positive infinity. -/
def infinite : Binary format := ⟨false, format.infinity⟩

/-- Whether a number is neither infinite nor no number. -/
def isFinite (value : Binary format) : Bool :=
  value.magnitude < format.infinity

/-- Whether a number is infinite. -/
def isInfinite (value : Binary format) : Bool :=
  value.magnitude = format.infinity

/-- The number nearest to a natural number. -/
def ofNat (value : Nat) : Binary format :=
  ⟨false, format.round value 1⟩

/-- The number nearest to an integer. -/
def ofInt (value : Int) : Binary format :=
  ⟨value < 0, format.round value.natAbs 1⟩

/--
The place of a number in the total order of its format.

Negative numbers stand below positive ones and negative zero below zero; what
is no number stands outside the infinities.
-/
def orderKey (value : Binary format) : Int :=
  if value.negative then -1 - (value.magnitude : Int) else value.magnitude

/-- The total order of the format. -/
def compareTotal (left right : Binary format) : Ordering :=
  compare left.orderKey right.orderKey

/-- The product of two finite numbers. -/
def mul (left right : Binary format) : Binary format :=
  let leftParts := format.parts left.magnitude
  let rightParts := format.parts right.magnitude
  let exponent := leftParts.2 + rightParts.2
  ⟨left.negative != right.negative,
    format.round
      (leftParts.1 * rightParts.1 * Nat.pow 2 exponent.toNat)
      (Nat.pow 2 (-exponent).toNat)⟩

/-- The quotient of two finite numbers of which the second is not zero. -/
def div (left right : Binary format) : Binary format :=
  let leftParts := format.parts left.magnitude
  let rightParts := format.parts right.magnitude
  let exponent := leftParts.2 - rightParts.2
  ⟨left.negative != right.negative,
    format.round
      (leftParts.1 * Nat.pow 2 exponent.toNat)
      (rightParts.1 * Nat.pow 2 (-exponent).toNat)⟩

/-- A finite number in units of the smallest positive one. -/
def units (value : Binary format) : Int :=
  let parts := format.parts value.magnitude
  let size : Int := parts.1 * Nat.pow 2 (parts.2 - format.leastExponent).toNat
  if value.negative then -size else size

/--
The sum of two finite numbers.

A sum of exactly nothing is negative zero only when both numbers are negative.
-/
def add (left right : Binary format) : Binary format :=
  let sum := left.units + right.units
  if sum = 0 then
    ⟨left.negative && right.negative, 0⟩
  else
    ⟨sum < 0, format.round sum.natAbs (Nat.pow 2 (-format.leastExponent).toNat)⟩

/-- The integer that equals a finite number, if there is one. -/
def toInt? (value : Binary format) : Option Int :=
  let parts := format.parts value.magnitude
  let whole := parts.1 * Nat.pow 2 parts.2.toNat
  let scale := Nat.pow 2 (-parts.2).toNat
  if whole % scale = 0 then
    let size : Int := (whole / scale : Nat)
    some (if value.negative then -size else size)
  else
    none

end Binary

end ResourceServer
