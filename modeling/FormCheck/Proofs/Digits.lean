import Mathlib.Data.Nat.Digits.Lemmas
import FormCheck.Check.Number
import FormCheck.Proofs.Strip

namespace FormCheck

/-!
# What rows of digits write

A row of ASCII digits that is submitted is read as a number in decimal: no blank
is around it and no other character in it, so nothing of it is dropped. Its size
is below the power of ten with as many zeros as the row has digits.
-/

namespace Text

variable {characters : List Char}

/-- What holds of each code point below a bound holds of the characters there. -/
theorem forall_of_forall_code
    {bound : Nat}
    {holds : Char → Prop}
    {character : Char}
    (isBelow : character.toNat < bound)
    (all : ∀ code < bound, holds (Char.ofNat code)) :
    holds character := by
  have here := all _ isBelow
  rwa [Char.ofNat_toNat] at here

/-- A character is an ASCII digit exactly if its code point is that of one. -/
theorem isAsciiDigit_iff
    {character : Char} :
    isAsciiDigit character = true ↔
      48 ≤ character.toNat ∧ character.toNat ≤ 57 := by
  unfold isAsciiDigit
  rw [Bool.and_eq_true, decide_eq_true_eq, decide_eq_true_eq]
  exact Iff.rfl

/-- A character is an ASCII letter or digit exactly if its code point is. -/
theorem isAsciiAlphanumeric_iff
    {character : Char} :
    isAsciiAlphanumeric character = true ↔
      (48 ≤ character.toNat ∧ character.toNat ≤ 57) ∨
        (65 ≤ character.toNat ∧ character.toNat ≤ 90) ∨
        (97 ≤ character.toNat ∧ character.toNat ≤ 122) := by
  unfold isAsciiAlphanumeric
  rw [Bool.or_eq_true, Bool.or_eq_true, isAsciiDigit_iff, Bool.and_eq_true,
    Bool.and_eq_true, or_assoc]
  simp only [decide_eq_true_eq]
  exact Iff.rfl

/-- No ASCII letter or digit is blank. -/
theorem isBlank_of_isAsciiAlphanumeric
    {character : Char}
    (isAlphanumeric : isAsciiAlphanumeric character = true) :
    isBlank character = false := by
  rw [isAsciiAlphanumeric_iff] at isAlphanumeric
  unfold isBlank blankCodes
  rw [← Bool.not_eq_true, List.contains_iff_mem]
  simp only [List.mem_cons, List.not_mem_nil, or_false]
  omega

/-- A digit is a letter or digit. -/
theorem isAsciiAlphanumeric_of_isAsciiDigit
    {character : Char}
    (isDigit : isAsciiDigit character = true) :
    isAsciiAlphanumeric character = true := by
  unfold isAsciiAlphanumeric
  rw [isDigit]
  rfl

/-- A row without blanks is left as it is. -/
theorem stripped_eq_self
    (visible :
      ∀ character ∈ characters, isBlank character = false) :
    stripped characters = characters := by
  have kept
      (row : List Char)
      (rowVisible : ∀ character ∈ row, isBlank character = false) :
      row.dropWhile isBlank = row := by
    rw [List.dropWhile_eq_self_iff]
    intro present
    simp [rowVisible _ (List.getElem_mem present)]
  unfold stripped
  rw [kept characters visible, kept, List.reverse_reverse]
  intro character member
  exact visible character (List.mem_reverse.mp member)

/-- A number is written with its last digit in the place of the units. -/
theorem numberOfDigits_eq_ofDigits
    (digits : List Nat) :
    numberOfDigits digits = Nat.ofDigits 10 digits.reverse := by
  unfold numberOfDigits
  rw [Nat.ofDigits_eq_foldr, List.foldr_reverse]
  simp [add_comm]

/-- Each of some digits counts less than ten. -/
theorem lt_ten_of_mem
    (areDigits :
      ∀ character ∈ characters, isAsciiDigit character = true) :
    ∀ digit ∈
        (characters.map fun character => character.toNat - 48).reverse,
      digit < 10 := by
  intro digit member
  obtain ⟨character, isWritten, rfl⟩ :=
    List.mem_map.mp (List.mem_reverse.mp member)
  have isDigit := isAsciiDigit_iff.mp (areDigits character isWritten)
  omega

/-- A number has no more digits than it is written with. -/
theorem numberOfAscii_lt
    (areDigits :
      ∀ character ∈ characters, isAsciiDigit character = true) :
    numberOfAscii characters < 10 ^ characters.length := by
  unfold numberOfAscii
  rw [numberOfDigits_eq_ofDigits]
  have bound :=
    Nat.ofDigits_lt_base_pow_length (show 1 < 10 by decide)
      (lt_ten_of_mem areDigits)
  rwa [List.length_reverse, List.length_map] at bound

/-- Rows of as many digits write the same number only if they are the same. -/
theorem eq_of_numberOfAscii_eq
    {others : List Char}
    (areDigits :
      ∀ character ∈ characters, isAsciiDigit character = true)
    (othersAreDigits :
      ∀ character ∈ others, isAsciiDigit character = true)
    (sameSize : characters.length = others.length)
    (sameNumber : numberOfAscii characters = numberOfAscii others) :
    characters = others := by
  unfold numberOfAscii at sameNumber
  rw [numberOfDigits_eq_ofDigits, numberOfDigits_eq_ofDigits] at sameNumber
  have sameDigits :=
    Nat.ofDigits_inj_of_len_eq (by decide)
      (by rw [List.length_reverse, List.length_reverse, List.length_map,
        List.length_map, sameSize])
      (lt_ten_of_mem areDigits) (lt_ten_of_mem othersAreDigits) sameNumber
  rw [List.reverse_inj] at sameDigits
  refine List.ext_getElem sameSize fun place inside insideOthers => ?_
  have sameDigit :=
    List.getElem_of_eq sameDigits (by rwa [List.length_map])
  rw [List.getElem_map, List.getElem_map] at sameDigit
  have isDigit := isAsciiDigit_iff.mp (areDigits _ (List.getElem_mem inside))
  have isDigitToo :=
    isAsciiDigit_iff.mp (othersAreDigits _ (List.getElem_mem insideOthers))
  rw [← Char.toNat_inj]
  omega

/-- The decimal digits of a number are ASCII digits. -/
theorem isAsciiDigit_of_mem_naturalDigits
    {number : Nat}
    {character : Char}
    (member : character ∈ Number.naturalDigits number) :
    isAsciiDigit character = true :=
  Nat.isDigit_of_mem_toDigits (by decide) (by decide) member

/-- The decimal digits of a number write that number. -/
theorem numberOfAscii_naturalDigits
    (number : Nat) :
    numberOfAscii (Number.naturalDigits number) = number := by
  unfold numberOfAscii numberOfDigits
  rw [List.foldl_map]
  exact Nat.ofDigitChars_ten_toDigits

/-- A number of four digits without a zero in front has just these digits. -/
theorem naturalDigits_numberOfAscii
    (areDigits :
      ∀ character ∈ characters, isAsciiDigit character = true)
    (size : characters.length = 4)
    (large : 1000 ≤ numberOfAscii characters) :
    Number.naturalDigits (numberOfAscii characters) = characters := by
  have bounded := numberOfAscii_lt areDigits
  rw [size] at bounded
  apply eq_of_numberOfAscii_eq
  · intro character member
    exact isAsciiDigit_of_mem_naturalDigits member
  · exact areDigits
  · have most :
        (Number.naturalDigits (numberOfAscii characters)).length ≤ 4 :=
      (Nat.length_toDigits_le_iff (by decide) (by decide)).mpr bounded
    have least :
        ¬(Number.naturalDigits (numberOfAscii characters)).length ≤ 3 := by
      unfold Number.naturalDigits
      rw [Nat.length_toDigits_le_iff (by decide) (by decide)]
      omega
    omega
  · exact numberOfAscii_naturalDigits _

end Text

namespace Number.Decimal

variable {digits : List Char}

/-- Digits are an unsigned literal without a point and an exponent. -/
theorem unsigned?_of_digits
    (present : digits ≠ [])
    (areDigits : ∀ digit ∈ digits, Text.isAsciiDigit digit = true) :
    unsigned? false digits =
      some ⟨false, Text.numberOfAscii digits, 0⟩ := by
  have whole : digits.takeWhile Text.isAsciiDigit = digits :=
    List.takeWhile_eq_self_iff.mpr areDigits
  have rest : digits.dropWhile Text.isAsciiDigit = [] :=
    List.dropWhile_eq_nil_iff.mpr areDigits
  unfold unsigned?
  simp [whole, rest, present, exponent?]

/-- A literal that begins with a digit has no sign. -/
theorem signed?_of_digits
    (areDigits : ∀ digit ∈ digits, Text.isAsciiDigit digit = true) :
    signed? digits = unsigned? false digits := by
  unfold signed?
  split
  case h_1 rest =>
    exact absurd (areDigits '-' (List.mem_cons_self ..)) (by decide)
  case h_2 rest =>
    exact absurd (areDigits '+' (List.mem_cons_self ..)) (by decide)
  case h_3 =>
    rfl

/-- An integer with few enough digits lies within the limits of the format. -/
theorem isRepresentable_of_lt
    {coefficient size : Nat}
    (positive : 0 < size)
    (bounded : coefficient < 10 ^ size)
    (short : (size : Int) ≤ maximalExponent) :
    isRepresentable ⟨false, coefficient, 0⟩ = true := by
  have few : (naturalDigits coefficient).length ≤ size :=
    (Nat.length_toDigits_le_iff (by decide) positive).mpr bounded
  unfold maximalExponent at short
  unfold isRepresentable adjustedExponent minimalLastExponent
    minimalExponent maximalExponent
  dsimp only
  split
  · rfl
  · simp only [Bool.and_eq_true, Bool.or_eq_true, decide_eq_true_eq]
    omega

/-- A row of digits that is not too long writes a number. -/
theorem ofText?_of_digits
    (present : digits ≠ [])
    (areDigits : ∀ digit ∈ digits, Text.isAsciiDigit digit = true)
    (short : (digits.length : Int) ≤ maximalExponent) :
    ofText? (String.ofList digits) =
      some ⟨false, Text.numberOfAscii digits, 0⟩ := by
  have codes
      (digit : Char)
      (member : digit ∈ digits) :
      48 ≤ digit.toNat ∧ digit.toNat ≤ 57 :=
    Text.isAsciiDigit_iff.mp (areDigits digit member)
  have visible : Text.stripped digits = digits :=
    Text.stripped_eq_self fun digit member =>
      Text.isBlank_of_isAsciiAlphanumeric
        (Text.isAsciiAlphanumeric_of_isAsciiDigit (areDigits digit member))
  have noUnderscore : digits.filter (· ≠ '_') = digits := by
    rw [List.filter_eq_self]
    intro digit member
    rw [decide_eq_true_eq]
    rintro rfl
    exact absurd (codes '_' member) (by decide)
  have plain : digits.map plainCharacter = digits := by
    rw [List.map_congr_left (g := id), List.map_id]
    intro digit member
    have isCode := codes digit member
    unfold plainCharacter
    rw [if_pos (by omega)]
    rfl
  unfold ofText?
  simp only [String.toList_ofList, visible, noUnderscore, plain,
    signed?_of_digits areDigits, unsigned?_of_digits present areDigits]
  rw [Option.filter_some, if_pos]
  exact isRepresentable_of_lt (List.length_pos_iff.mpr present)
    (Text.numberOfAscii_lt areDigits) short

/-- A number without an exponent is an integer. -/
theorem toInt?_of_integer
    (coefficient : Nat) :
    toInt? ⟨false, coefficient, 0⟩ = some (coefficient : Int) := by
  have isSize : magnitude? ⟨false, coefficient, 0⟩ = some coefficient := by
    unfold magnitude?
    by_cases isZero : coefficient = 0 <;> simp [isZero]
  unfold toInt?
  rw [isSize]
  rfl

end Number.Decimal

/-- A row of digits that is not too long writes an integer. -/
theorem Value.toInt?_of_digits
    {digits : List Char}
    (present : digits ≠ [])
    (areDigits : ∀ digit ∈ digits, Text.isAsciiDigit digit = true)
    (short :
      (digits.length : Int) ≤ Number.Decimal.maximalExponent) :
    (Value.text (String.ofList digits)).toInt? =
      some (Text.numberOfAscii digits : Int) := by
  have isRead :
      (Value.text (String.ofList digits)).toDecimal? =
        some ⟨false, Text.numberOfAscii digits, 0⟩ :=
    Number.Decimal.ofText?_of_digits present areDigits short
  unfold Value.toInt?
  rw [isRead]
  exact Number.Decimal.toInt?_of_integer _

/-- Four digits or fewer are read as the number that they write. -/
theorem Value.toInt?_of_fewDigits
    {digits : List Char}
    (present : digits ≠ [])
    (areDigits : ∀ digit ∈ digits, Text.isAsciiDigit digit = true)
    (few : digits.length ≤ 4) :
    (Value.text (String.ofList digits)).toInt? =
      some (Text.numberOfAscii digits : Int) := by
  apply toInt?_of_digits present areDigits
  unfold Number.Decimal.maximalExponent
  omega

end FormCheck
