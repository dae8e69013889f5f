import Mathlib.Algebra.Group.Nat.Defs
import ResourceServer.Number.Binary

namespace ResourceServer

/-!
# The nearest integer that a significand has room for

A significand has room for so many bits. An integer that needs more of them is
rounded to a multiple of the weight of its last place that is kept. No integer
with room is nearer to it, and one that has room is left as it is.
-/

namespace BinaryFormat

/-! ## The nearest multiple -/

/-- A quotient is rounded down or up, each where the remainder allows it. -/
theorem nearestEven_cases
    (numerator denominator : Nat) :
    (nearestEven numerator denominator = numerator / denominator ∧
        2 * (numerator % denominator) ≤ denominator) ∨
      (nearestEven numerator denominator = numerator / denominator + 1 ∧
        denominator ≤ 2 * (numerator % denominator)) := by
  unfold nearestEven
  dsimp only
  split
  · exact .inl ⟨rfl, by omega⟩
  · split
    · exact .inr ⟨rfl, by omega⟩
    · split
      · exact .inl ⟨rfl, by omega⟩
      · exact .inr ⟨rfl, by omega⟩

/-- A common factor does not change how a quotient is rounded. -/
theorem nearestEven_mul_right
    (numerator denominator : Nat)
    {factor : Nat}
    (isPositive : 0 < factor) :
    nearestEven (numerator * factor) (denominator * factor) =
      nearestEven numerator denominator := by
  have twice :
      2 * (numerator % denominator * factor) =
        2 * (numerator % denominator) * factor :=
    (Nat.mul_assoc _ _ _).symm
  simp only [nearestEven, Nat.mul_div_mul_right _ _ isPositive,
    Nat.mul_mod_mul_right, twice, Nat.mul_lt_mul_right isPositive]

theorem nearestEven_mul_self
    (quotient : Nat)
    {denominator : Nat}
    (isPositive : 0 < denominator) :
    nearestEven (quotient * denominator) denominator = quotient := by
  simp only [nearestEven, Nat.mul_div_cancel _ isPositive,
    Nat.mul_mod_left, Nat.mul_zero, if_pos isPositive]

theorem nearestEven_one
    (numerator : Nat) :
    nearestEven numerator 1 = numerator := by
  have same := nearestEven_mul_self numerator Nat.one_pos
  rw [Nat.mul_one] at same
  exact same

/-- No multiple is nearer to a number than the one that it is rounded to. -/
theorem nearestEven_closest
    (numerator other : Nat)
    {denominator : Nat}
    (isPositive : 0 < denominator) :
    ((nearestEven numerator denominator * denominator : Nat) -
        (numerator : Int)).natAbs ≤
      ((other * denominator : Nat) - (numerator : Int)).natAbs := by
  have parts :
      numerator / denominator * denominator + numerator % denominator =
        numerator :=
    Nat.div_add_mod' numerator denominator
  have remainder := Nat.mod_lt numerator isPositive
  have besides :
      other * denominator ≤ numerator / denominator * denominator ∨
        numerator / denominator * denominator + denominator ≤
          other * denominator := by
    rcases Nat.lt_or_ge (numerator / denominator) other with above | below
    · rw [← Nat.succ_mul]
      exact .inr (Nat.mul_le_mul_right denominator above)
    · exact .inl (Nat.mul_le_mul_right denominator below)
  rcases nearestEven_cases numerator denominator with
    ⟨isDown, small⟩ | ⟨isUp, large⟩
  · rw [isDown]
    omega
  · rw [isUp, Nat.succ_mul]
    omega

/-! ## The nearest integer with room -/

/-- Of an integer, zeros apart, a significand has room for every bit. -/
def Holds
    (format : BinaryFormat)
    (value : Int) :
    Prop :=
  ∃ significand exponent : Nat,
    significand < 2 ^ format.precision ∧
      value.natAbs = significand * 2 ^ exponent

/-- The bits of a number that a significand has no room for. -/
def surplus
    (format : BinaryFormat)
    (value : Nat) :
    Nat :=
  value.log2 + 1 - format.precision

/-- The number nearest to a natural number that a significand has room for. -/
def nearestNat
    (format : BinaryFormat)
    (value : Nat) :
    Nat :=
  nearestEven value (2 ^ format.surplus value) * 2 ^ format.surplus value

/-- The integer nearest to an integer that a significand has room for. -/
def nearest
    (format : BinaryFormat)
    (value : Int) :
    Int :=
  if value < 0 then
    -(format.nearestNat value.natAbs : Int)
  else
    format.nearestNat value.natAbs

/-- A format whose numbers about one are not among its smallest. -/
structure Ordinary
    (format : BinaryFormat) :
    Prop where
  hasPrecision : 0 < format.precision
  hasWidth : 1 < format.width

theorem double_ordinary : double.Ordinary :=
  ⟨by decide, by decide⟩

variable {format : BinaryFormat}

theorem nearestNat_zero : format.nearestNat 0 = 0 := by
  have zero := nearestEven_mul_self 0 (Nat.two_pow_pos (format.surplus 0))
  rw [Nat.zero_mul] at zero
  rw [nearestNat, zero, Nat.zero_mul]

/-- No more bits are without room than the number has. -/
theorem surplus_le_log2
    (ordinary : format.Ordinary)
    (value : Nat) :
    format.surplus value ≤ value.log2 := by
  have hasPrecision := ordinary.hasPrecision
  unfold surplus
  omega

/-- A number below a power of two has no room for the bits above the precision. -/
theorem surplus_le
    (ordinary : format.Ordinary)
    {value exponent : Nat}
    (isBelow : value < 2 ^ (format.precision + exponent)) :
    format.surplus value ≤ exponent := by
  have hasPrecision := ordinary.hasPrecision
  by_cases isZero : value = 0
  · have log2_zero : Nat.log2 0 = 0 := Nat.log2_zero
    subst isZero
    unfold surplus
    omega
  · have isSmall := (Nat.log2_lt isZero).mpr isBelow
    unfold surplus
    omega

/-- What a significand has room for is held as it is. -/
theorem nearest_of_holds
    (ordinary : format.Ordinary)
    {value : Int}
    (holds : format.Holds value) :
    format.nearest value = value := by
  obtain ⟨significand, exponent, hasRoom, isValue⟩ := holds
  have isBelow : value.natAbs < 2 ^ (format.precision + exponent) := by
    rw [isValue, Nat.pow_add]
    exact Nat.mul_lt_mul_of_pos_right hasRoom (Nat.two_pow_pos exponent)
  have enough := surplus_le ordinary isBelow
  have isMultiple :
      value.natAbs =
        significand * 2 ^ (exponent - format.surplus value.natAbs) *
          2 ^ format.surplus value.natAbs := by
    rw [Nat.mul_assoc, ← Nat.pow_add, Nat.sub_add_cancel enough]
    exact isValue
  have same : format.nearestNat value.natAbs = value.natAbs := by
    have isExact :=
      nearestEven_mul_self
        (significand * 2 ^ (exponent - format.surplus value.natAbs))
        (Nat.two_pow_pos (format.surplus value.natAbs))
    rw [← isMultiple] at isExact
    rw [nearestNat, isExact, ← isMultiple]
  unfold nearest
  split <;> omega

/-- An integer with room is a multiple of the last place, or far below. -/
theorem multiple_or_below
    {other : Int}
    (holds : format.Holds other)
    (place : Nat) :
    (∃ factor, other.natAbs = factor * 2 ^ place) ∨
      0 < place ∧ 2 * other.natAbs < 2 ^ (format.precision + place) := by
  obtain ⟨significand, exponent, hasRoom, isOther⟩ := holds
  rcases Nat.lt_or_ge exponent place with below | above
  · refine .inr ⟨by omega, ?_⟩
    calc
      2 * other.natAbs = significand * 2 ^ (exponent + 1) := by
        rw [isOther, Nat.pow_succ, Nat.mul_comm 2, Nat.mul_assoc]
      _ < 2 ^ format.precision * 2 ^ (exponent + 1) :=
        Nat.mul_lt_mul_of_pos_right hasRoom (Nat.two_pow_pos _)
      _ = 2 ^ (format.precision + (exponent + 1)) := (Nat.pow_add _ _ _).symm
      _ ≤ 2 ^ (format.precision + place) :=
        Nat.pow_le_pow_right (by decide) (by omega)
  · refine .inl ⟨significand * 2 ^ (exponent - place), ?_⟩
    rw [Nat.mul_assoc, ← Nat.pow_add, Nat.sub_add_cancel above]
    exact isOther

/-- No multiple of the last bit's weight is nearer to an integer than the nearest. -/
theorem nearest_closest_multiple
    (format : BinaryFormat)
    (value : Int)
    (factor : Nat) :
    (format.nearest value - value).natAbs ≤
      ((factor * 2 ^ format.surplus value.natAbs : Nat) -
        (value.natAbs : Int)).natAbs := by
  have closest :
      ((format.nearestNat value.natAbs : Int) - value.natAbs).natAbs ≤
        ((factor * 2 ^ format.surplus value.natAbs : Nat) -
          (value.natAbs : Int)).natAbs :=
    nearestEven_closest value.natAbs factor (Nat.two_pow_pos _)
  unfold nearest
  split <;> omega

/-- Where bits are too many, the first of them outweighs what has room for all. -/
theorem two_pow_le_of_surplus
    (ordinary : format.Ordinary)
    {value : Nat}
    (isPositive : 0 < format.surplus value) :
    2 ^ (format.precision + format.surplus value) ≤ 2 * value := by
  have isLong : format.precision + format.surplus value = value.log2 + 1 := by
    unfold surplus at isPositive ⊢
    omega
  have notZero : value ≠ 0 := by
    rintro rfl
    have noBits := surplus_le_log2 ordinary 0
    rw [Nat.log2_zero] at noBits
    omega
  rw [isLong, Nat.pow_succ, Nat.mul_comm 2]
  exact Nat.mul_le_mul_right 2 (Nat.log2_self_le notZero)

/-- No integer that a significand has room for is nearer than the one held. -/
theorem nearest_closest
    (ordinary : format.Ordinary)
    (value : Int)
    {other : Int}
    (holds : format.Holds other) :
    (format.nearest value - value).natAbs ≤ (other - value).natAbs := by
  rcases multiple_or_below holds (format.surplus value.natAbs) with
    ⟨factor, isMultiple⟩ | ⟨isPositive, isBelow⟩
  · have closest := nearest_closest_multiple format value factor
    omega
  · -- The first bit alone is a multiple, and it is nearer than anything below.
    have closest :=
      nearest_closest_multiple format value (2 ^ (format.precision - 1))
    have reaches := two_pow_le_of_surplus ordinary isPositive
    have half :
        2 * (2 ^ (format.precision - 1) * 2 ^ format.surplus value.natAbs) =
          2 ^ (format.precision + format.surplus value.natAbs) := by
      rw [← Nat.mul_assoc, Nat.mul_comm 2, ← Nat.pow_succ, ← Nat.pow_add,
        Nat.succ_eq_add_one, Nat.sub_add_cancel ordinary.hasPrecision]
    omega

/-- Every integer up to the precision's power of two has room. -/
theorem holds_of_le
    (ordinary : format.Ordinary)
    {value : Int}
    (isSmall : value.natAbs ≤ 2 ^ format.precision) :
    format.Holds value := by
  rcases Nat.lt_or_eq_of_le isSmall with hasRoom | isPower
  · exact ⟨value.natAbs, 0, hasRoom, by rw [Nat.pow_zero, Nat.mul_one]⟩
  · refine
      ⟨1, format.precision,
        Nat.one_lt_two_pow (Nat.ne_of_gt ordinary.hasPrecision), ?_⟩
    rw [isPower, Nat.one_mul]

/-- Integers that a significand has room for are added exactly. -/
theorem nearest_add_of_holds
    (ordinary : format.Ordinary)
    {left right : Int}
    (leftHolds : format.Holds left)
    (rightHolds : format.Holds right)
    (sumHolds : format.Holds (left + right)) :
    format.nearest (format.nearest left + format.nearest right) =
      left + right := by
  rw [nearest_of_holds ordinary leftHolds,
    nearest_of_holds ordinary rightHolds, nearest_of_holds ordinary sumHolds]

/-- Rounding at most doubles an integer. -/
theorem natAbs_nearest_le
    (ordinary : format.Ordinary)
    (value : Int) :
    (format.nearest value).natAbs ≤ 2 * value.natAbs := by
  have holdsZero : format.Holds 0 :=
    holds_of_le ordinary (Nat.zero_le _)
  have closest := nearest_closest ordinary value holdsZero
  omega

end BinaryFormat

end ResourceServer
