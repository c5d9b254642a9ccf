import FormCheck.Proofs.Digits
import Mathlib.Algebra.Order.Field.Rat
import Mathlib.Data.Nat.Log

namespace FormCheck.Number.Decimal

/-!
# The value of a decimal number

A decimal number is a sign, a coefficient and a power of ten, and its value is a
rational number. It is read as an integer exactly if that value is one, and then as
that integer: nothing is rounded, however many digits the coefficient has and
whatever the exponent is.
-/

/-- A size with a sign, which is minus or none. -/
def withSign
    {size : Type}
    [Neg size]
    (negative : Bool)
    (amount : size) : size :=
  if negative then -amount else amount

/-- The rational number that a decimal number is. -/
def value
    (number : Decimal) : ℚ :=
  withSign number.negative (number.coefficient * 10 ^ number.exponent)

variable {number : Decimal}

/-! ## Integers -/

/-- A number with places behind the point is an integer if the places are zeros. -/
theorem coefficient_mul_zpow_neg_iff
    {coefficient places size : Nat} :
    (coefficient : ℚ) * 10 ^ (-(places : Int)) = size ↔
      coefficient = size * 10 ^ places := by
  have positive : (0 : ℚ) < 10 ^ places := by
    positivity
  rw [zpow_neg, zpow_natCast, ← div_eq_mul_inv, div_eq_iff positive.ne']
  exact_mod_cast Iff.rfl

/-- A coefficient that its places exceed is no multiple of their power of ten. -/
theorem ne_mul_pow_of_length_le
    {coefficient places : Nat}
    (notZero : coefficient ≠ 0)
    (positive : 0 < places)
    (few : (naturalDigits coefficient).length ≤ places)
    (size : Nat) :
    coefficient ≠ size * 10 ^ places := by
  have isBelow : coefficient < 10 ^ places :=
    (Nat.length_toDigits_le_iff (by decide) positive).mp few
  rintro rfl
  have present : 0 < size := by
    rw [Nat.pos_iff_ne_zero]
    rintro rfl
    exact notZero (Nat.zero_mul _)
  exact Nat.lt_irrefl _
    (Nat.lt_of_lt_of_le isBelow (Nat.le_mul_of_pos_left _ present))

/-- A number has the size of an integer exactly if it is one without its sign. -/
theorem magnitude?_eq_some_iff
    {size : Nat} :
    number.magnitude? = some size ↔
      (number.coefficient : ℚ) * 10 ^ number.exponent = size := by
  unfold magnitude?
  split
  case isTrue isZero =>
    rw [isZero, Option.some_inj, Nat.cast_zero, zero_mul]
    exact_mod_cast Iff.rfl
  case isFalse notZero =>
    split
    case isTrue isLarge =>
      obtain ⟨power, isPower⟩ := Int.eq_ofNat_of_zero_le isLarge
      rw [isPower, Option.some_inj, zpow_natCast, Int.toNat_natCast]
      exact_mod_cast Iff.rfl
    case isFalse isSmall =>
      obtain ⟨places, isPlaces⟩ :
          ∃ places : Nat, number.exponent = -(places : Int) :=
        ⟨(-number.exponent).toNat, by omega⟩
      have positive : 0 < places := by
        omega
      dsimp only
      rw [isPlaces, coefficient_mul_zpow_neg_iff, neg_neg,
        Int.toNat_natCast]
      split
      case isTrue few =>
        exact iff_of_false (Option.some_ne_none _).symm
          (ne_mul_pow_of_length_le notZero positive few size)
      case isFalse =>
        have powerPositive : 0 < 10 ^ places := by
          positivity
        split
        case isTrue isMultiple =>
          rw [Option.some_inj]
          exact Nat.div_eq_iff_eq_mul_left powerPositive
            (Nat.dvd_of_mod_eq_zero isMultiple)
        case isFalse notMultiple =>
          refine iff_of_false (Option.some_ne_none _).symm fun isProduct => ?_
          rw [isProduct] at notMultiple
          exact notMultiple (Nat.mul_mod_left _ _)

/-- The value of a number is an integer if its size is one, with its sign. -/
theorem value_eq_intCast_iff
    {integer : Int} :
    number.value = integer ↔
      ∃ size : Nat,
        (number.coefficient : ℚ) * 10 ^ number.exponent = size ∧
          withSign number.negative (size : Int) = integer := by
  have notNegative :
      0 ≤ (number.coefficient : ℚ) * 10 ^ number.exponent :=
    mul_nonneg (Nat.cast_nonneg _) (zpow_nonneg (Nat.ofNat_nonneg 10) _)
  unfold value
  constructor
  · intro isInteger
    cases isNegative : number.negative with
    | true =>
        rw [isNegative, withSign, if_pos rfl] at isInteger
        have isSize := neg_eq_iff_eq_neg.mp isInteger
        rw [isSize, ← Int.cast_neg, Int.cast_nonneg_iff] at notNegative
        obtain ⟨size, sameSize⟩ := Int.eq_ofNat_of_zero_le notNegative
        refine ⟨size, ?_, by rw [withSign, if_pos rfl, ← sameSize, neg_neg]⟩
        rw [isSize, ← Int.cast_neg, sameSize, Int.cast_natCast]
    | false =>
        rw [isNegative, withSign, if_neg Bool.false_ne_true] at isInteger
        rw [isInteger, Int.cast_nonneg_iff] at notNegative
        obtain ⟨size, sameSize⟩ := Int.eq_ofNat_of_zero_le notNegative
        refine ⟨size, ?_, sameSize.symm⟩
        rw [isInteger, sameSize, Int.cast_natCast]
  · rintro ⟨size, isSize, rfl⟩
    rw [isSize]
    cases number.negative with
    | true =>
        rw [withSign, withSign, if_pos rfl, if_pos rfl, Int.cast_neg,
          Int.cast_natCast]
    | false =>
        exact (Int.cast_natCast size).symm

/-- A number is read as an integer exactly if its value is that integer. -/
theorem toInt?_eq_some_iff
    {integer : Int} :
    number.toInt? = some integer ↔ number.value = integer := by
  rw [value_eq_intCast_iff]
  simp only [← magnitude?_eq_some_iff]
  unfold toInt?
  cases number.magnitude? with
  | none =>
      exact iff_of_false (Option.some_ne_none _).symm
        fun ⟨_, isSize, _⟩ => Option.some_ne_none _ isSize.symm
  | some size =>
      change some (withSign number.negative (size : Int)) = some integer ↔ _
      simp only [Option.some_inj, exists_eq_left']

/-! ## Limits -/

/--
The exponents of the format: a zero has them for its last digit, any other number
for its leading digit, and where that one is too small for its last digit.
-/
def WithinLimits
    (coefficient : Nat)
    (exponent : Int) : Prop :=
  if coefficient = 0 then
    -1999999999999999997 ≤ exponent ∧ exponent ≤ 999999999999999999
  else
    exponent + Nat.log 10 coefficient ≤ 999999999999999999 ∧
      (-999999999999999999 ≤ exponent + Nat.log 10 coefficient ∨
        -1999999999999999997 ≤ exponent)

/-- A number has one digit more than its logarithm says. -/
theorem length_naturalDigits
    (number : Nat) :
    (naturalDigits number).length = Nat.log 10 number + 1 := by
  have bound
      {size : Nat}
      (positive : 0 < size) :
      (Nat.toDigits 10 number).length ≤ size ↔
        Nat.log 10 number + 1 ≤ size := by
    rw [Nat.length_toDigits_le_iff (by decide) positive, Nat.succ_le_iff]
    exact ⟨Nat.log_lt_of_lt_pow' positive.ne',
      Nat.lt_pow_of_log_lt (by decide)⟩
  apply Nat.le_antisymm
  · exact (bound (Nat.succ_pos _)).mpr (Nat.le_refl _)
  · exact (bound Nat.length_toDigits_pos).mp (Nat.le_refl _)

/-- A number is representable exactly if it is within the limits of the format. -/
theorem isRepresentable_iff :
    number.isRepresentable = true ↔
      WithinLimits number.coefficient number.exponent := by
  unfold isRepresentable WithinLimits adjustedExponent minimalLastExponent
    minimalExponent maximalExponent
  rw [length_naturalDigits, Nat.add_sub_cancel]
  split
  · rw [Bool.and_eq_true, decide_eq_true_eq, decide_eq_true_eq]
  · rw [Bool.and_eq_true, Bool.or_eq_true, decide_eq_true_eq,
      decide_eq_true_eq, decide_eq_true_eq]

end FormCheck.Number.Decimal
