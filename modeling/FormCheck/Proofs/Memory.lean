import FormCheck.Check.Number
import FormCheck.Proofs.DecimalValue
import FormCheck.Proofs.Listing

namespace FormCheck

/-!
# Integers that fit into the memory

A few characters such as `1e999999999999999999` may write an integer of more digits
than there is room for. Reading it is a fault then. A value fits if the integer that
it writes does, so that a value that writes none fits, and so does every integer that
can be written in decimal.
-/

namespace Number.Decimal

variable {number : Decimal}

/-- A power of ten behind a number adds as many digits. -/
theorem log_mul_pow
    {size : Nat}
    (notZero : size ≠ 0)
    (power : Nat) :
    Nat.log 10 (size * 10 ^ power) = Nat.log 10 size + power := by
  induction power with
  | zero =>
      rw [pow_zero, mul_one, add_zero]
  | succ power inductionHypothesis =>
      rw [pow_succ, ← mul_assoc, Nat.log_mul_base (by decide) (by positivity),
        inductionHypothesis, add_assoc]

/-- The size of a number that is not zero is not zero. -/
theorem ne_zero_of_magnitude?
    {size : Nat}
    (notZero : number.coefficient ≠ 0)
    (isSize : number.magnitude? = some size) :
    size ≠ 0 := by
  rintro rfl
  have sameValue := magnitude?_eq_some_iff.mp isSize
  rw [Nat.cast_zero, mul_eq_zero, Nat.cast_eq_zero] at sameValue
  exact sameValue.elim notZero (zpow_ne_zero _ (by decide))

/-- The leading digit of an integer stands where its size says. -/
theorem adjustedExponent_eq_log
    {size : Nat}
    (notZero : number.coefficient ≠ 0)
    (isSize : number.magnitude? = some size) :
    number.adjustedExponent = Nat.log 10 size := by
  have sameValue := magnitude?_eq_some_iff.mp isSize
  unfold adjustedExponent
  rw [length_naturalDigits, Nat.add_sub_cancel]
  obtain ⟨power, isPower | isPower⟩ := Int.eq_nat_or_neg number.exponent
  · have isProduct : number.coefficient * 10 ^ power = size := by
      rw [isPower, zpow_natCast] at sameValue
      exact_mod_cast sameValue
    rw [← isProduct, log_mul_pow notZero, isPower]
    omega
  · have isProduct : number.coefficient = size * 10 ^ power := by
      rw [isPower] at sameValue
      exact coefficient_mul_zpow_neg_iff.mp sameValue
    rw [isProduct, log_mul_pow (ne_zero_of_magnitude? notZero isSize), isPower]
    omega

/-- A number with no places behind the point is an integer. -/
theorem isSome_magnitude?_of_nonneg
    (noPlaces : 0 ≤ number.exponent) :
    number.magnitude?.isSome = true := by
  unfold magnitude?
  rw [if_pos noPlaces]
  split <;> rfl

/-- The size of a number is that of the integer that it is. -/
theorem magnitude?_eq_map_toInt? :
    number.magnitude? = number.toInt?.map Int.natAbs := by
  unfold toInt?
  cases number.magnitude? with
  | none =>
      rfl
  | some size =>
      cases number.negative with
      | true =>
          exact congrArg some (Int.natAbs_neg size).symm
      | false =>
          rfl

/-- A size of more than some digits is one with its leading digit beyond them. -/
theorem exceeds_iff_magnitude
    {digits : Nat} :
    number.exceeds digits = true ↔
      ∃ size, number.magnitude? = some size ∧ 10 ^ digits ≤ size := by
  unfold exceeds
  rw [Bool.and_eq_true, Bool.and_eq_true, Bool.or_eq_true, decide_eq_true_iff,
    decide_eq_true_iff, decide_eq_true_iff,
    or_iff_right_of_imp isSome_magnitude?_of_nonneg, Option.isSome_iff_exists]
  constructor
  · rintro ⟨⟨notZero, isBeyond⟩, size, isSize⟩
    rw [adjustedExponent_eq_log notZero isSize, Nat.cast_le] at isBeyond
    refine ⟨size, isSize, ?_⟩
    exact Nat.pow_le_of_le_log (ne_zero_of_magnitude? notZero isSize) isBeyond
  · rintro ⟨size, isSize, isLong⟩
    have sizeNotZero : size ≠ 0 :=
      (Nat.lt_of_lt_of_le (by positivity) isLong).ne'
    have notZero : number.coefficient ≠ 0 := by
      intro isZero
      rw [magnitude?, if_pos isZero] at isSize
      exact sizeNotZero (Option.some.inj isSize).symm
    refine ⟨⟨notZero, ?_⟩, size, isSize⟩
    rw [adjustedExponent_eq_log notZero isSize, Nat.cast_le]
    exact Nat.le_log_of_pow_le (by decide) isLong

/-- A number exceeds some digits exactly if it is an integer of more digits. -/
theorem exceeds_iff
    {digits : Nat} :
    number.exceeds digits = true ↔
      ∃ integer, number.toInt? = some integer ∧ 10 ^ digits ≤ integer.natAbs := by
  rw [exceeds_iff_magnitude, magnitude?_eq_map_toInt?]
  simp only [Option.map_eq_some_iff, ↓existsAndEq, and_true]

end Number.Decimal

namespace Value

variable
  {value : Value}
  {memory : Memory}

/-- A value fits into a memory if the integer that it is or writes does. -/
def FitsInto
    (value : Value)
    (memory : Memory) : Prop :=
  ∀ integer, value.toInt? = some integer → integer.natAbs < 10 ^ memory.digits

/-- A value exceeds a memory exactly if it does not fit. -/
theorem exceeds_iff_not_fitsInto :
    value.toDecimal?.any (·.exceeds memory.digits) = true ↔
      ¬value.FitsInto memory := by
  unfold FitsInto toInt?
  cases value.toDecimal? with
  | none =>
      simp
  | some number =>
      rw [Option.any_some, Number.Decimal.exceeds_iff]
      simp

/-- A value does not fit if it is or writes an integer that does not. -/
theorem not_fitsInto_iff :
    ¬value.FitsInto memory ↔
      ∃ integer,
        value.toInt? = some integer ∧ 10 ^ memory.digits ≤ integer.natAbs := by
  simp only [FitsInto, not_forall, not_lt, exists_prop]

instance
    (value : Value)
    (memory : Memory) :
    Decidable (value.FitsInto memory) :=
  decidable_of_iff
    (value.toDecimal?.any (·.exceeds memory.digits) = false)
    (by rw [← not_iff_not, Bool.not_eq_false, exceeds_iff_not_fitsInto])

/-! ## What fits -/

/-- An integer with no more digits than can be written is read as it is. -/
theorem toInt?_int
    {integer : Int}
    (writable : Number.isWritable integer = true) :
    (Value.int integer).toInt? = some integer := by
  have isValue : (Number.Decimal.ofInt integer).value = integer := by
    refine Number.Decimal.value_eq_intCast_iff.mpr
      ⟨integer.natAbs, ?_, ?_⟩
    · exact mul_one _
    · unfold Number.Decimal.ofInt Number.Decimal.withSign
      simp only [decide_eq_true_eq]
      split <;> omega
  unfold toInt? toDecimal?
  dsimp only
  rw [if_pos writable]
  exact Number.Decimal.toInt?_eq_some_iff.mpr isValue

/-- A value that is no integer and writes none fits. -/
theorem fitsInto_of_eq_none
    (noInteger : value.toInt? = none) :
    value.FitsInto memory := by
  intro integer isInteger
  rw [noInteger] at isInteger
  cases isInteger

/-- An integer that can be written in decimal is short enough for any memory. -/
theorem natAbs_lt_of_isWritable
    {integer : Int}
    (writable : Number.isWritable integer = true) :
    integer.natAbs < 10 ^ memory.digits :=
  Nat.lt_of_lt_of_le (of_decide_eq_true writable)
    (Nat.pow_le_pow_right (by decide) memory.writable)

/-- A value fits if the integer that it is or writes can be written in decimal. -/
theorem fitsInto_of_isWritable
    {integer : Int}
    (isInteger : value.toInt? = some integer)
    (writable : Number.isWritable integer = true) :
    value.FitsInto memory := by
  intro other isOther
  rw [isInteger] at isOther
  obtain rfl := Option.some.inj isOther
  exact natAbs_lt_of_isWritable writable

/-- A value fits if it is or writes an integer of at most twelve digits. -/
theorem fitsInto_of_lt
    {integer : Int}
    (isInteger : value.toInt? = some integer)
    (small : integer.natAbs < 1000000000000) :
    value.FitsInto memory :=
  fitsInto_of_isWritable isInteger (Number.isWritable_of_lt small)

/-- An integer fits as it is. -/
theorem fitsInto_int
    (number : Int) :
    (Value.int number).FitsInto memory := by
  by_cases writable : Number.isWritable number = true
  · exact fitsInto_of_isWritable (toInt?_int writable) writable
  · apply fitsInto_of_eq_none
    unfold toInt? toDecimal?
    dsimp only
    rw [if_neg writable]
    rfl

/-- Four digits or fewer write an integer that fits. -/
theorem fitsInto_fewDigits
    {digits : List Char}
    (present : digits ≠ [])
    (areDigits : ∀ digit ∈ digits, Text.isAsciiDigit digit = true)
    (few : digits.length ≤ 4) :
    (Value.text (String.ofList digits)).FitsInto memory := by
  refine fitsInto_of_isWritable (toInt?_of_fewDigits present areDigits few)
    (decide_eq_true ?_)
  have size : digits.length ≤ Number.digitLimit :=
    few.trans (by decide)
  exact Nat.lt_of_lt_of_le (Text.numberOfAscii_lt areDigits)
    (Nat.pow_le_pow_right (by decide) size)

/-- A text of twenty characters that writes an integer too large for any memory. -/
def longLiteral : Value :=
  .text "1e999999999999999999"

/-- No memory has as many digits as an exponent may ask for. -/
theorem not_fitsInto_longLiteral :
    ¬longLiteral.FitsInto memory := by
  have isNumber :
      longLiteral.toDecimal? = some ⟨false, 1, 999999999999999999⟩ := by
    decide +kernel
  have countable := memory.countable
  rw [← exceeds_iff_not_fitsInto, isNumber, Option.any_some]
  unfold Number.Decimal.exceeds
  have isLeading :
      Number.Decimal.adjustedExponent ⟨false, 1, 999999999999999999⟩ =
        999999999999999999 := by
    decide +kernel
  rw [isLeading]
  have isBeyond : (memory.digits : Int) ≤ 999999999999999999 := by
    omega
  simp [isBeyond]

/-! ## What is read -/

/-- A value that fits is read as the integer that it is or writes. -/
theorem FitsInto.readInteger
    (fits : value.FitsInto memory) :
    value.readInteger memory = .ok value.toInt? := by
  unfold Value.readInteger
  rw [if_neg fun exceeds => exceeds_iff_not_fitsInto.mp exceeds fits]

/-- A value that does not fit is not read at all. -/
theorem readInteger_of_not_fitsInto
    (exceeds : ¬value.FitsInto memory) :
    value.readInteger memory = .error .outOfMemory := by
  unfold readInteger
  rw [if_pos (exceeds_iff_not_fitsInto.mpr exceeds)]

/-- A value that is no integer and writes none is read as nothing. -/
theorem readInteger_of_eq_none
    (noInteger : value.toInt? = none) :
    value.readInteger memory = .ok none := by
  rw [(fitsInto_of_eq_none noInteger).readInteger, noInteger]

/-- Values that are or write the same integer are read alike. -/
theorem readInteger_congr
    {other : Value}
    (same : value.toInt? = other.toInt?) :
    value.readInteger memory = other.readInteger memory := by
  have alike : value.FitsInto memory ↔ other.FitsInto memory := by
    unfold FitsInto
    rw [same]
  by_cases fits : value.FitsInto memory
  · rw [fits.readInteger, (alike.mp fits).readInteger, same]
  · rw [readInteger_of_not_fitsInto fits,
      readInteger_of_not_fitsInto (mt alike.mpr fits)]

/-- A value is read exactly if it fits, and then as what it is or writes. -/
theorem readInteger_eq_ok_iff
    {read : Option Int} :
    value.readInteger memory = .ok read ↔
      value.FitsInto memory ∧ value.toInt? = read := by
  by_cases fits : value.FitsInto memory
  · rw [fits.readInteger, Except.ok.injEq, and_iff_right fits]
  · rw [readInteger_of_not_fitsInto fits]
    exact iff_of_false (by rintro ⟨⟩) fun both => fits both.1

end Value

end FormCheck
