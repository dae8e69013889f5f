import ResourceServer.Proofs.Number.Nearest

namespace ResourceServer

/-!
# Integers as floating-point numbers

The magnitude that an integer is rounded to stands for the nearest integer that
a significand has room for. So that integer is read back, and the sum of two
integers is the integer nearest to the sum of what is held of each.
-/

namespace BinaryFormat

/-! ## The magnitude of an integer -/

/-- Rounding does not take the integer out of the range of the format. -/
def Reaches
    (format : BinaryFormat)
    (value : Int) :
    Prop :=
  value.natAbs.log2 + 1 < 2 ^ (format.width - 1)

/-- The places of a significand that the bits of a number do not fill. -/
def spare
    (format : BinaryFormat)
    (value : Nat) :
    Nat :=
  format.precision - 1 - value.log2

/-- What a significand shows of a natural number. -/
def significand
    (format : BinaryFormat)
    (value : Nat) :
    Nat :=
  nearestEven (value * 2 ^ format.spare value) (2 ^ format.surplus value)

/-- The exponents between the least and that of a natural number. -/
def strides
    (format : BinaryFormat)
    (value : Nat) :
    Nat :=
  value.log2 + 2 ^ (format.width - 1) - 2

variable {format : BinaryFormat}

theorem stride_eq : format.stride = 2 ^ (format.precision - 1) :=
  rfl

theorem leastExponent_eq :
    format.leastExponent =
      3 - ((2 ^ (format.width - 1) : Nat) : Int) - format.precision :=
  rfl

theorem Ordinary.two_le
    (ordinary : format.Ordinary) :
    2 ≤ 2 ^ (format.width - 1) := by
  have hasWidth := ordinary.hasWidth
  calc
    2 = 2 ^ 1 := rfl
    _ ≤ 2 ^ (format.width - 1) :=
      Nat.pow_le_pow_right (by decide) (by omega)

/-- An integer of fewer bits than the greatest exponent is inside the range. -/
theorem reaches_of_lt
    (ordinary : format.Ordinary)
    {value : Int}
    {place : Nat}
    (isBelow : value.natAbs < 2 ^ place)
    (isInside : place < 2 ^ (format.width - 1)) :
    format.Reaches value := by
  have two_le := ordinary.two_le
  unfold Reaches
  by_cases isZero : value.natAbs = 0
  · rw [isZero, Nat.log2_zero]
    omega
  · have isShort := (Nat.log2_lt isZero).mpr isBelow
    omega

theorem log2_mul_two_pow
    {value : Nat}
    (notZero : value ≠ 0)
    (place : Nat) :
    (value * 2 ^ place).log2 = value.log2 + place := by
  have scaled : value * 2 ^ place ≠ 0 :=
    Nat.mul_ne_zero notZero (Nat.ne_of_gt (Nat.two_pow_pos place))
  rw [Nat.log2_eq_iff scaled]
  constructor
  · rw [Nat.pow_add]
    exact Nat.mul_le_mul_right _ (Nat.log2_self_le notZero)
  · rw [Nat.add_right_comm, Nat.pow_add]
    exact Nat.mul_lt_mul_of_pos_right Nat.lt_log2_self (Nat.two_pow_pos place)

/-- The exponent of a quotient with a common power of two is that of the number. -/
theorem quotientExponent_mul_two_pow
    {value : Nat}
    (notZero : value ≠ 0)
    (place : Nat) :
    quotientExponent (value * 2 ^ place) (2 ^ place) = value.log2 := by
  have estimate :
      ((value * 2 ^ place).log2 : Int) - ((2 ^ place).log2 : Nat) =
        value.log2 := by
    rw [log2_mul_two_pow notZero, Nat.log2_two_pow]
    omega
  have enough :
      2 ^ place * Nat.pow 2 (value.log2 : Int).toNat ≤
        value * 2 ^ place * Nat.pow 2 (-(value.log2 : Int)).toNat := by
    rw [Int.toNat_natCast, Int.toNat_neg_natCast, Nat.pow_eq, Nat.pow_eq,
      Nat.pow_zero, Nat.mul_one, Nat.mul_comm]
    exact Nat.mul_le_mul_right _ (Nat.log2_self_le notZero)
  unfold quotientExponent
  dsimp only
  rw [estimate, if_pos enough]

/-- The exponent of an integer is its binary logarithm. -/
theorem quotientExponent_one
    {value : Nat}
    (notZero : value ≠ 0) :
    quotientExponent value 1 = value.log2 := by
  have whole := quotientExponent_mul_two_pow notZero 0
  rw [Nat.pow_zero, Nat.mul_one] at whole
  exact whole

/-- A common power of two does not change what a quotient is rounded to. -/
theorem round_mul_two_pow
    (value place : Nat) :
    format.round (value * 2 ^ place) (2 ^ place) = format.round value 1 := by
  by_cases isZero : value = 0
  · rw [isZero, Nat.zero_mul, round, round, if_pos rfl, if_pos rfl]
  · have scaled : value * 2 ^ place ≠ 0 :=
      Nat.mul_ne_zero isZero (Nat.ne_of_gt (Nat.two_pow_pos place))
    simp only [round, if_neg isZero, if_neg scaled,
      quotientExponent_mul_two_pow isZero, quotientExponent_one isZero,
      Nat.mul_right_comm value (2 ^ place), Nat.mul_comm (2 ^ place),
      nearestEven_mul_right _ _ (Nat.two_pow_pos place), Nat.one_mul]

/-- The magnitude of an integer is its strides and its significand, within the range. -/
theorem round_one
    (ordinary : format.Ordinary)
    {value : Nat}
    (notZero : value ≠ 0) :
    format.round value 1 =
      min
        (format.strides value * format.stride + format.significand value)
        format.infinity := by
  have two_le := ordinary.two_le
  have hasPrecision := ordinary.hasPrecision
  have exponent :
      max ((value.log2 : Int) - (format.precision - 1)) format.leastExponent =
        value.log2 - (format.precision - 1) := by
    rw [leastExponent_eq]
    omega
  have left :
      (-((value.log2 : Int) - (format.precision - 1))).toNat =
        format.spare value := by
    unfold spare
    omega
  have right :
      ((value.log2 : Int) - (format.precision - 1)).toNat =
        format.surplus value := by
    unfold surplus
    omega
  have strides :
      ((value.log2 : Int) - (format.precision - 1) -
          format.leastExponent).toNat =
        format.strides value := by
    rw [leastExponent_eq]
    unfold strides
    omega
  simp only [round, if_neg notZero, quotientExponent_one notZero, exponent,
    left, right, strides, significand, Nat.pow_eq, Nat.one_mul]

/-- What a significand shows, with its zeros put back, is the nearest number. -/
theorem significand_mul_two_pow
    (format : BinaryFormat)
    (value : Nat) :
    format.significand value * 2 ^ format.surplus value =
      format.nearestNat value * 2 ^ format.spare value := by
  unfold significand nearestNat
  rcases Nat.eq_zero_or_pos (format.surplus value) with none | some
  · rw [none, Nat.pow_zero, Nat.mul_one, nearestEven_one, nearestEven_one,
      Nat.mul_one]
  · have noSpare : format.spare value = 0 := by
      unfold surplus at some
      unfold spare
      omega
    rw [noSpare, Nat.pow_zero, Nat.mul_one, Nat.mul_one]

/-- A significand has its first bit, or it is the next power of two. -/
theorem significand_bounds
    (ordinary : format.Ordinary)
    {value : Nat}
    (notZero : value ≠ 0) :
    format.stride ≤ format.significand value ∧
      format.significand value ≤ 2 * format.stride := by
  have hasPrecision := ordinary.hasPrecision
  have positions :
      format.precision - 1 + format.surplus value =
        value.log2 + format.spare value := by
    unfold surplus spare
    omega
  have atLeast :
      format.stride ≤
        value * 2 ^ format.spare value / 2 ^ format.surplus value := by
    rw [Nat.le_div_iff_mul_le (Nat.two_pow_pos _), stride_eq, ← Nat.pow_add,
      positions, Nat.pow_add]
    exact Nat.mul_le_mul_right _ (Nat.log2_self_le notZero)
  have below :
      value * 2 ^ format.spare value / 2 ^ format.surplus value <
        2 * format.stride := by
    rw [Nat.div_lt_iff_lt_mul (Nat.two_pow_pos _), stride_eq, Nat.mul_assoc,
      ← Nat.pow_add, positions, Nat.pow_add, ← Nat.mul_assoc,
      Nat.mul_comm 2, ← Nat.pow_succ]
    exact Nat.mul_lt_mul_of_pos_right Nat.lt_log2_self (Nat.two_pow_pos _)
  unfold significand
  rcases
    nearestEven_cases (value * 2 ^ format.spare value)
      (2 ^ format.surplus value) with
    ⟨isDown, -⟩ | ⟨isUp, -⟩ <;> omega

/-- No integer other than zero is rounded to zero. -/
theorem nearestNat_pos
    (ordinary : format.Ordinary)
    {value : Nat}
    (notZero : value ≠ 0) :
    0 < format.nearestNat value := by
  have shown := significand_mul_two_pow format value
  have isPositive : 0 < format.significand value :=
    Nat.lt_of_lt_of_le (Nat.two_pow_pos _)
      (significand_bounds ordinary notZero).1
  have product :=
    Nat.mul_pos isPositive (Nat.two_pow_pos (format.surplus value))
  rw [shown] at product
  exact Nat.pos_of_mul_pos_right product

theorem nearest_neg
    (ordinary : format.Ordinary)
    {value : Int}
    (isNegative : value < 0) :
    format.nearest value < 0 := by
  have isPositive : 0 < format.nearestNat value.natAbs :=
    nearestNat_pos ordinary (by omega)
  rw [nearest, if_pos isNegative]
  omega

/-! ## What a magnitude stands for -/

/-- The weight of the integer one, as a power of two, in the smallest units. -/
def unitPlace
    (format : BinaryFormat) :
    Nat :=
  (-format.leastExponent).toNat

/-- A magnitude in the smallest units. -/
def size
    (format : BinaryFormat)
    (magnitude : Nat) :
    Nat :=
  (format.parts magnitude).1 *
    2 ^ ((format.parts magnitude).2 - format.leastExponent).toNat

/-- A normal magnitude stands for its fraction and the hidden bit, shifted. -/
theorem size_normal
    {fraction : Nat}
    (isFraction : fraction < format.stride)
    (exponent : Nat) :
    format.size ((exponent + 1) * format.stride + fraction) =
      (fraction + format.stride) * 2 ^ exponent := by
  have isPositive : 0 < format.stride := Nat.two_pow_pos _
  have biased :
      ((exponent + 1) * format.stride + fraction) / format.stride =
        exponent + 1 := by
    rw [Nat.mul_comm, Nat.mul_add_div isPositive,
      Nat.div_eq_of_lt isFraction, Nat.add_zero]
  have isRest :
      ((exponent + 1) * format.stride + fraction) % format.stride =
        fraction := by
    rw [Nat.mul_comm, Nat.mul_add_mod, Nat.mod_eq_of_lt isFraction]
  have places :
      (format.leastExponent + ((exponent + 1 : Nat) : Int) - 1 -
          format.leastExponent).toNat =
        exponent := by
    omega
  simp only [size, parts, biased, isRest, Nat.succ_ne_zero, if_false, places]

/-- Strides and a significand stand for that significand, shifted, also where rounding
reached the next power of two. -/
theorem size_of_significand
    {significand : Nat}
    (atLeast : format.stride ≤ significand)
    (atMost : significand ≤ 2 * format.stride)
    (exponent : Nat) :
    format.size (exponent * format.stride + significand) =
      significand * 2 ^ exponent := by
  rcases Nat.lt_or_ge significand (2 * format.stride) with below | above
  · have sameMagnitude :
        exponent * format.stride + significand =
          (exponent + 1) * format.stride + (significand - format.stride) := by
      rw [Nat.succ_mul]
      omega
    rw [sameMagnitude, size_normal (by omega), Nat.sub_add_cancel atLeast]
  · have isPower : significand = 2 * format.stride :=
      Nat.le_antisymm atMost above
    have sameMagnitude :
        exponent * format.stride + significand =
          (exponent + 1 + 1) * format.stride + 0 := by
      rw [isPower, Nat.add_zero, Nat.add_assoc exponent, Nat.add_mul]
    rw [sameMagnitude, size_normal (Nat.two_pow_pos _), isPower, Nat.zero_add,
      Nat.pow_succ, Nat.mul_comm 2, Nat.mul_assoc, Nat.mul_comm 2]

/-- An integer inside the range has a magnitude below infinity. -/
theorem magnitude_lt_infinity
    (ordinary : format.Ordinary)
    {value : Nat}
    (notZero : value ≠ 0)
    (reaches : format.Reaches value) :
    format.strides value * format.stride + format.significand value <
      format.infinity := by
  have two_le := ordinary.two_le
  have hasWidth := ordinary.hasWidth
  have isReached : value.log2 + 1 < 2 ^ (format.width - 1) := reaches
  have isInfinity :
      format.infinity = (2 * 2 ^ (format.width - 1) - 1) * format.stride := by
    rw [infinity, Nat.pow_eq, ← Nat.pow_succ', Nat.succ_eq_add_one,
      Nat.sub_add_cancel (Nat.le_of_lt hasWidth)]
  calc
    format.strides value * format.stride + format.significand value ≤
        format.strides value * format.stride + 2 * format.stride :=
      Nat.add_le_add_left (significand_bounds ordinary notZero).2 _
    _ = (value.log2 + 2 ^ (format.width - 1)) * format.stride := by
      rw [← Nat.add_mul, strides, Nat.sub_add_cancel (by omega)]
    _ < (2 * 2 ^ (format.width - 1) - 1) * format.stride :=
      Nat.mul_lt_mul_of_pos_right (by omega) (Nat.two_pow_pos _)
    _ = format.infinity := isInfinity.symm

/-- Rounding an integer inside the range stays below infinity. -/
theorem round_one_lt_infinity
    (ordinary : format.Ordinary)
    {value : Nat}
    (reaches : format.Reaches value) :
    format.round value 1 < format.infinity := by
  by_cases isZero : value = 0
  · have hasWidth := ordinary.hasWidth
    have isOver : 1 < Nat.pow 2 format.width :=
      Nat.one_lt_two_pow (by omega)
    rw [isZero, round, if_pos rfl]
    exact Nat.mul_pos (by omega) (Nat.two_pow_pos _)
  · rw [round_one ordinary isZero]
    exact
      Nat.lt_of_le_of_lt (Nat.min_le_left _ _)
        (magnitude_lt_infinity ordinary isZero reaches)

theorem unit_pos
    (format : BinaryFormat) :
    (0 : Int) < (2 ^ format.unitPlace : Nat) :=
  Int.natCast_pos.mpr (Nat.two_pow_pos _)

theorem size_zero : format.size 0 = 0 := by
  simp only [size, parts, Nat.zero_div, Nat.zero_mod, if_true, Nat.zero_mul]

/-- The strides of an integer say where the last bit of its significand stands. -/
theorem strides_add_spare
    (ordinary : format.Ordinary)
    (value : Nat) :
    format.strides value + format.spare value =
      format.surplus value + format.unitPlace := by
  have two_le := ordinary.two_le
  have hasPrecision := ordinary.hasPrecision
  rw [unitPlace, leastExponent_eq]
  unfold strides spare surplus
  omega

/-- The magnitude that a number is rounded to is that of the nearest number. -/
theorem size_round_one
    (ordinary : format.Ordinary)
    {value : Nat}
    (reaches : format.Reaches value) :
    format.size (format.round value 1) =
      format.nearestNat value * 2 ^ format.unitPlace := by
  by_cases isZero : value = 0
  · rw [isZero, nearestNat_zero, Nat.zero_mul, round, if_pos rfl, size_zero]
  · have bounds := significand_bounds ordinary isZero
    rw [round_one ordinary isZero,
      Nat.min_eq_left
        (Nat.le_of_lt (magnitude_lt_infinity ordinary isZero reaches)),
      size_of_significand bounds.1 bounds.2]
    -- With the spare places counted on both sides, the significand cancels.
    apply Nat.eq_of_mul_eq_mul_right (Nat.two_pow_pos (format.spare value))
    rw [Nat.mul_assoc, ← Nat.pow_add, strides_add_spare ordinary, Nat.pow_add,
      ← Nat.mul_assoc, significand_mul_two_pow, Nat.mul_right_comm]

/-- The smallest units of a magnitude, beside its integer part and its scale. -/
theorem places_eq
    (ordinary : format.Ordinary)
    (magnitude : Nat) :
    (format.parts magnitude).2.toNat + format.unitPlace =
      ((format.parts magnitude).2 - format.leastExponent).toNat +
        (-(format.parts magnitude).2).toNat := by
  have two_le := ordinary.two_le
  have hasPrecision := ordinary.hasPrecision
  have atLeast : format.leastExponent ≤ (format.parts magnitude).2 := by
    have isNatural : 0 ≤ ((magnitude / format.stride : Nat) : Int) :=
      Int.natCast_nonneg _
    simp only [parts]
    split <;> dsimp only <;> omega
  have notPositive : format.leastExponent ≤ 0 := by
    rw [leastExponent_eq]
    omega
  unfold unitPlace
  omega

end BinaryFormat

namespace Binary

variable {format : BinaryFormat}

/-- The units of a number are the size of its magnitude, with its sign. -/
theorem units_eq
    (value : Binary format) :
    value.units =
      if value.negative then
        -(format.size value.magnitude : Int)
      else
        format.size value.magnitude := by
  simp only [units, BinaryFormat.size, Nat.pow_eq, Int.natCast_mul]

/-- An integer is held as the nearest one that a significand has room for. -/
theorem units_ofInt
    (ordinary : format.Ordinary)
    {value : Int}
    (reaches : format.Reaches value) :
    (ofInt value : Binary format).units =
      format.nearest value * (2 ^ format.unitPlace : Nat) := by
  have isSize :
      format.size (format.round value.natAbs 1) =
        format.nearestNat value.natAbs * 2 ^ format.unitPlace :=
    BinaryFormat.size_round_one ordinary reaches
  simp only [units_eq, ofInt, isSize, decide_eq_true_eq, BinaryFormat.nearest]
  split
  · rw [Int.neg_mul, Int.natCast_mul]
  · rw [Int.natCast_mul]

theorem isFinite_ofInt
    (ordinary : format.Ordinary)
    {value : Int}
    (reaches : format.Reaches value) :
    (ofInt value : Binary format).isFinite = true :=
  decide_eq_true (BinaryFormat.round_one_lt_infinity ordinary reaches)

/-- A whole number of ones is the integer that the number is read as. -/
theorem toInt?_of_units
    (ordinary : format.Ordinary)
    {value : Binary format}
    {whole : Int}
    (isWhole : value.units = whole * (2 ^ format.unitPlace : Nat)) :
    value.toInt? = some whole := by
  have isSize :
      format.size value.magnitude =
        whole.natAbs * 2 ^ format.unitPlace := by
    rw [← Int.natAbs_natCast (2 ^ format.unitPlace), ← Int.natAbs_mul,
      ← isWhole, units_eq]
    split <;> omega
  have isProduct :
      (format.parts value.magnitude).1 *
          2 ^ (format.parts value.magnitude).2.toNat =
        whole.natAbs * 2 ^ (-(format.parts value.magnitude).2).toNat := by
    have places := BinaryFormat.places_eq ordinary value.magnitude
    apply Nat.eq_of_mul_eq_mul_right (Nat.two_pow_pos format.unitPlace)
    rw [Nat.mul_assoc, ← Nat.pow_add, places, Nat.pow_add, ← Nat.mul_assoc,
      Nat.mul_right_comm whole.natAbs, ← isSize]
    rfl
  have signed :
      (if value.negative then -(whole.natAbs : Int) else whole.natAbs) =
        whole := by
    rw [units_eq, isSize, Int.natCast_mul] at isWhole
    apply Int.eq_of_mul_eq_mul_right (Int.ne_of_gt format.unit_pos)
    rw [← isWhole]
    split
    · exact Int.neg_mul _ _
    · rfl
  simp only [toInt?, Nat.pow_eq, isProduct, Nat.mul_mod_left, if_true,
    Nat.mul_div_cancel _ (Nat.two_pow_pos _), signed]

/-- An integer inside the range reads back as the nearest one with room. -/
theorem toInt?_ofInt
    (ordinary : format.Ordinary)
    {value : Int}
    (reaches : format.Reaches value) :
    (ofInt value : Binary format).toInt? = some (format.nearest value) :=
  toInt?_of_units ordinary (units_ofInt ordinary reaches)

/-- Numbers whose sum is whole add up to the number nearest to it. -/
theorem add_of_units
    {left right : Binary format}
    {total : Int}
    (isTotal :
      left.units + right.units = total * (2 ^ format.unitPlace : Nat))
    (notBoth : total = 0 → (left.negative && right.negative) = false) :
    left.add right = ofInt total := by
  by_cases isZero : total = 0
  · have nothing : left.units + right.units = 0 := by
      rw [isTotal, isZero, Int.zero_mul]
    simp only [add, nothing, if_true, notBoth isZero, isZero]
    rfl
  · have something : left.units + right.units ≠ 0 := by
      rw [isTotal]
      exact Int.mul_ne_zero isZero (Int.ne_of_gt format.unit_pos)
    have sameSign : left.units + right.units < 0 ↔ total < 0 := by
      rw [isTotal, ← Int.not_le, ← Int.not_le,
        Int.mul_nonneg_iff_of_pos_right format.unit_pos]
    have isScaled :
        (left.units + right.units).natAbs =
          total.natAbs * 2 ^ format.unitPlace := by
      rw [isTotal, Int.natAbs_mul, Int.natAbs_natCast]
    have isRounded :
        format.round (total.natAbs * 2 ^ format.unitPlace)
            (Nat.pow 2 (-format.leastExponent).toNat) =
          format.round total.natAbs 1 :=
      BinaryFormat.round_mul_two_pow total.natAbs format.unitPlace
    simp only [add, if_neg something, sameSign, isScaled, isRounded, ofInt]

/-- The sum of two integers is the sum of what is held of each, rounded. -/
theorem add_ofInt
    (ordinary : format.Ordinary)
    {left right : Int}
    (leftReaches : format.Reaches left)
    (rightReaches : format.Reaches right) :
    (ofInt left : Binary format).add (ofInt right) =
      ofInt (format.nearest left + format.nearest right) := by
  refine add_of_units ?_ fun isZero => ?_
  · rw [units_ofInt ordinary leftReaches, units_ofInt ordinary rightReaches,
      Int.add_mul]
  · simp only [ofInt, Bool.and_eq_false_iff, decide_eq_false_iff_not,
      ← Decidable.not_and_iff_or_not]
    rintro ⟨leftNegative, rightNegative⟩
    have leftBelow := BinaryFormat.nearest_neg ordinary leftNegative
    have rightBelow := BinaryFormat.nearest_neg ordinary rightNegative
    omega

end Binary

end ResourceServer
