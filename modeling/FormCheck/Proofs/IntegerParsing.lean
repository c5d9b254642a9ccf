import FormCheck.Proofs.DecimalLiteral
import FormCheck.Proofs.Memory

namespace FormCheck

/-!
# Integers that are submitted

A text is read as an integer exactly if it is a decimal literal between blanks
whose value is that integer. Underscores in it do not count. Nothing is rounded on
the way from the literal to the integer, which has to fit into the memory.
-/

namespace Number.Decimal

/--
A text denotes a rational number if it is a literal between blanks, within the
limits of the format and but for underscores, whose value is that number.
-/
inductive Denotes
    (text : String) : ℚ → Prop where
  | literal
      {number : Decimal}
      (isLiteral :
        IsLiteral ((Text.stripped text.toList).filter (· ≠ '_')) number)
      (limits : WithinLimits number.coefficient number.exponent) :
      Denotes text number.value

variable {text : String}

/-- A text denotes what it is read as. -/
theorem denotes_iff
    {rational : ℚ} :
    Denotes text rational ↔
      ∃ number, ofText? text = some number ∧ number.value = rational := by
  unfold ofText?
  simp only [Option.filter_eq_some_iff, signed?_eq_some_iff,
    isRepresentable_iff]
  constructor
  · intro denotes
    cases denotes with
    | literal isLiteral limits =>
        exact ⟨_, ⟨isLiteral, limits⟩, rfl⟩
  · rintro ⟨number, ⟨isLiteral, limits⟩, rfl⟩
    exact .literal isLiteral limits

/-- A text denotes one number at most. -/
theorem Denotes.unique
    {rational other : ℚ}
    (denotes : Denotes text rational)
    (denotesToo : Denotes text other) :
    rational = other := by
  obtain ⟨number, isRead, rfl⟩ := denotes_iff.mp denotes
  obtain ⟨_, isReadToo, rfl⟩ := denotes_iff.mp denotesToo
  rw [Option.some_inj.mp (isRead.symm.trans isReadToo)]

end Number.Decimal

namespace Value

open Number.Decimal (Denotes)

/-- A text is read as an integer exactly if that is what it denotes. -/
theorem toInt?_text_eq_some_iff
    {text : String}
    {integer : Int} :
    (Value.text text).toInt? = some integer ↔ Denotes text integer := by
  unfold toInt? toDecimal?
  rw [Option.bind_eq_some_iff, Number.Decimal.denotes_iff]
  simp only [Number.Decimal.toInt?_eq_some_iff]

/-- A text is read as nothing exactly if it denotes no integer. -/
theorem toInt?_text_eq_none_iff
    {text : String} :
    (Value.text text).toInt? = none ↔
      ∀ integer : Int, ¬Denotes text integer := by
  simp only [Option.eq_none_iff_forall_ne_some, ne_eq,
    toInt?_text_eq_some_iff]

/--
A submitted value is read as an integer without rounding. A text that denotes a
rational number is read as that number if it is an integer that fits into the memory,
and as nothing if it is no integer; an integer that does not fit is a fault. A text
that denotes no number is read as nothing. An integer of at most 4300 digits is read
as it is. Null and the truth values are no integers.
-/
theorem readInteger_exact
    (memory : Memory) :
    (∀ text rational, Denotes text rational →
        (∀ integer : Int, rational = integer →
            (Value.text text).readInteger memory =
              if integer.natAbs < 10 ^ memory.digits then .ok (some integer)
              else .error .outOfMemory) ∧
          ((∀ integer : Int, rational ≠ integer) →
            (Value.text text).readInteger memory = .ok none)) ∧
      (∀ text, (∀ rational, ¬Denotes text rational) →
        (Value.text text).readInteger memory = .ok none) ∧
      (∀ integer : Int,
        (Nat.toDigits 10 integer.natAbs).length ≤ 4300 →
          (Value.int integer).readInteger memory = .ok (some integer)) ∧
      Value.null.readInteger memory = .ok none ∧
      ∀ truth, (Value.bool truth).readInteger memory = .ok none := by
  refine ⟨fun text rational denotes => ⟨?_, ?_⟩, fun text noNumber => ?_,
    fun integer short => ?_, rfl, fun _ => rfl⟩
  · rintro integer rfl
    have isInteger := toInt?_text_eq_some_iff.mpr denotes
    split
    case isTrue isShort =>
      refine readInteger_eq_ok_iff.mpr ⟨fun other isOther => ?_, isInteger⟩
      rwa [← Option.some.inj (isInteger.symm.trans isOther)]
    case isFalse isLong =>
      exact readInteger_of_not_fitsInto fun fits => isLong (fits _ isInteger)
  · intro notInteger
    apply readInteger_of_eq_none
    rw [toInt?_text_eq_none_iff]
    exact fun integer isInteger =>
      notInteger integer (denotes.unique isInteger)
  · apply readInteger_of_eq_none
    rw [toInt?_text_eq_none_iff]
    exact fun integer => noNumber integer
  · have writable : Number.isWritable integer = true :=
      decide_eq_true
        ((Nat.length_toDigits_le_iff (by decide) (by decide)).mp short)
    exact readInteger_eq_ok_iff.mpr ⟨fitsInto_int _, toInt?_int writable⟩

/--
Zeros behind the point and digits of another script make an integer all the same, and
no digit of a long one is lost. A number that is no integer and a word are read as
nothing.
-/
theorem readInteger_exact_literals :
    (Value.text " -1_2\u0663.4500e2\t").readInteger .ample =
        .ok (some (-12345)) ∧
      (Value.text "1234567890123456789012345678901.0").readInteger .ample =
        .ok (some 1234567890123456789012345678901) ∧
      (Value.text "15e-1").readInteger .ample = .ok none ∧
      (Value.text "nan").readInteger .ample = .ok none ∧
      (Value.int 12).readInteger .ample = .ok (some 12) := by
  have denotes
      {text : String}
      {number : Number.Decimal}
      (isRead : Number.Decimal.ofText? text = some number) :
      Denotes text number.value :=
    Number.Decimal.denotes_iff.mpr ⟨number, isRead, rfl⟩
  obtain ⟨ofDenotes, ofNone, ofInteger, _⟩ := readInteger_exact .ample
  refine ⟨?_, ?_, ?_, ?_, ofInteger 12 (by decide +kernel)⟩
  · have isRead :
        Number.Decimal.ofText? " -1_2\u0663.4500e2\t" =
          some ⟨true, 1234500, -2⟩ := by
      decide +kernel
    refine ((ofDenotes _ _ (denotes isRead)).1 (-12345) ?_).trans
      (if_pos (natAbs_lt_of_isWritable (by decide +kernel)))
    norm_num [Number.Decimal.value, Number.Decimal.withSign]
  · have isRead :
        Number.Decimal.ofText? "1234567890123456789012345678901.0" =
          some ⟨false, 12345678901234567890123456789010, -1⟩ := by
      decide +kernel
    refine ((ofDenotes _ _ (denotes isRead)).1
      1234567890123456789012345678901 ?_).trans
      (if_pos (natAbs_lt_of_isWritable (by decide +kernel)))
    norm_num [Number.Decimal.value, Number.Decimal.withSign]
  · have isRead :
        Number.Decimal.ofText? "15e-1" = some ⟨false, 15, -1⟩ := by
      decide +kernel
    refine (ofDenotes _ _ (denotes isRead)).2 fun integer isInteger => ?_
    have isHalf : (3 : ℚ) = 2 * integer := by
      rw [← isInteger]
      norm_num [Number.Decimal.value, Number.Decimal.withSign]
    have isOdd : (3 : Int) = 2 * integer := by
      exact_mod_cast isHalf
    omega
  · refine ofNone _ fun rational isNumber => ?_
    obtain ⟨_, isRead, _⟩ := Number.Decimal.denotes_iff.mp isNumber
    have isWord : Number.Decimal.ofText? "nan" = none := by
      decide +kernel
    rw [isWord] at isRead
    cases isRead

/-- No memory holds every integer that a text denotes. -/
theorem not_exists_memory_readsEvery :
    ¬∃ memory : Memory,
        ∀ (text : String) (integer : Int), Denotes text integer →
          (Value.text text).readInteger memory = .ok (some integer) := by
  rintro ⟨memory, readsEvery⟩
  have isLong : ¬longLiteral.FitsInto memory := not_fitsInto_longLiteral
  obtain ⟨integer, isInteger, _⟩ := not_fitsInto_iff.mp isLong
  have isRead := readsEvery _ integer (toInt?_text_eq_some_iff.mp isInteger)
  have isFault := readInteger_of_not_fitsInto isLong
  cases isRead.symm.trans isFault

end Value

end FormCheck
