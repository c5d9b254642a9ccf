import FormCheck.Proofs.Digits
import FormCheck.Text.Case

namespace FormCheck.Text

/-!
# Codes in upper case

Semesters and program numbers are looked at in upper case. Some characters
outside ASCII have letters of ASCII for their upper case, but none of them has a
digit or a tag, so codes are typed with ASCII characters only.
-/

/-- A character is a code if it is a digit or a tag of a semester. -/
def IsCode
    (character : Char) : Prop :=
  isAsciiDigit character = true ∨ character = 'A' ∨ character = 'B'

instance
    (character : Char) :
    Decidable (IsCode character) :=
  inferInstanceAs (Decidable (_ ∨ _))

/-- Every character has an upper case. -/
theorem upperCharacter_ne_nil
    (character : Char) :
    upperCharacter character ≠ [] := by
  unfold upperCharacter
  split <;> exact List.cons_ne_nil _ _

/-- Only an ASCII character has a code for its upper case, and nothing else. -/
theorem upperCharacter_eq_cons_iff
    {character code : Char}
    {rest : List Char}
    (isCode : IsCode code) :
    upperCharacter character = code :: rest ↔
      character.toUpper = code ∧ rest = [] := by
  constructor
  · unfold upperCharacter
    intro isUpper
    split at isUpper
    case h_11 =>
      cases isUpper
      exact ⟨rfl, rfl⟩
    all_goals
      cases isUpper
      exact absurd isCode (by decide)
  · rintro ⟨rfl, rfl⟩
    unfold upperCharacter
    split
    case h_11 =>
      rfl
    all_goals
      exact absurd isCode (by decide)

/-- Where the upper case of a text has only codes, it is that of ASCII. -/
theorem upperCase_eq_iff
    {characters codes : List Char}
    (areCodes : ∀ code ∈ codes, IsCode code) :
    upperCase characters = codes ↔
      characters.map Char.toUpper = codes := by
  induction codes generalizing characters with
  | nil =>
      cases characters with
      | nil =>
          exact Iff.rfl
      | cons character rest =>
          simp [upperCase, upperCharacter_ne_nil]
  | cons code others inductionHypothesis =>
      rw [List.forall_mem_cons] at areCodes
      cases characters with
      | nil =>
          exact Iff.rfl
      | cons character rest =>
          rw [List.map_cons, List.cons.injEq,
            ← inductionHypothesis areCodes.2]
          change
            upperCharacter character ++ upperCase rest = _ ↔ _
          rw [List.append_eq_cons_iff]
          simp only [upperCharacter_ne_nil, false_and, false_or,
            upperCharacter_eq_cons_iff areCodes.1]
          constructor
          · rintro ⟨_, ⟨isUpper, rfl⟩, same⟩
            exact ⟨isUpper, same.symm⟩
          · rintro ⟨isUpper, same⟩
            exact ⟨[], ⟨isUpper, rfl⟩, same.symm⟩

/-- Capital letters lie thirty-two code points before the small ones. -/
theorem toNat_toUpper
    (character : Char) :
    character.toUpper.toNat =
      if 97 ≤ character.toNat ∧ character.toNat ≤ 122 then
        character.toNat - 32
      else
        character.toNat := by
  unfold Char.toUpper
  split
  case isTrue isSmall =>
    have isSmallToo : 97 ≤ character.toNat ∧ character.toNat ≤ 122 :=
      isSmall
    rw [if_pos isSmallToo]
    change (character.val + ('A'.val - 'a'.val)).toNat = _
    rw [UInt32.toNat_add]
    change (character.toNat + 4294967264) % 4294967296 = _
    omega
  case isFalse isOther =>
    exact (if_neg isOther).symm

/-- A digit is the upper case of itself alone. -/
theorem toUpper_eq_iff_of_isAsciiDigit
    {character digit : Char}
    (isDigit : isAsciiDigit digit = true) :
    character.toUpper = digit ↔ character = digit := by
  rw [isAsciiDigit_iff] at isDigit
  rw [← Char.toNat_inj, ← Char.toNat_inj, toNat_toUpper]
  split <;> omega

/-- Digits are the upper case of themselves alone. -/
theorem map_toUpper_eq_iff_of_digits
    {characters digits : List Char}
    (areDigits : ∀ digit ∈ digits, isAsciiDigit digit = true) :
    characters.map Char.toUpper = digits ↔ characters = digits := by
  induction digits generalizing characters with
  | nil =>
      exact List.map_eq_nil_iff
  | cons digit others inductionHypothesis =>
      rw [List.forall_mem_cons] at areDigits
      cases characters with
      | nil =>
          exact Iff.rfl
      | cons character rest =>
          rw [List.map_cons, List.cons.injEq, List.cons.injEq,
            toUpper_eq_iff_of_isAsciiDigit areDigits.1,
            inductionHypothesis areDigits.2]

/-- The tags of semesters are typed in upper or in lower case. -/
theorem toUpper_mem_tags_iff
    {character : Char} :
    character.toUpper ∈ ['A', 'B'] ↔
      character ∈ ['A', 'B', 'a', 'b'] := by
  simp only [List.mem_cons, List.not_mem_nil, or_false, ← Char.toNat_inj,
    toNat_toUpper, Char.reduceToNat]
  split <;> omega

/-- A capital letter is its own upper case in ASCII. -/
theorem toUpper_of_isCapital
    {letter : Char}
    (isCapital : 'A' ≤ letter ∧ letter ≤ 'Z') :
    letter.toUpper = letter := by
  have isAscii : 65 ≤ letter.toNat ∧ letter.toNat ≤ 90 := isCapital
  rw [← Char.toNat_inj, toNat_toUpper, if_neg (by omega)]

/-- A capital letter is its own upper case. -/
theorem upperCase_singleton_of_isCapital
    {letter : Char}
    (isCapital : 'A' ≤ letter ∧ letter ≤ 'Z') :
    upperCase [letter] = [letter] := by
  have isAscii : 65 ≤ letter.toNat ∧ letter.toNat ≤ 90 := isCapital
  change upperCharacter letter ++ [] = _
  unfold upperCharacter
  split
  case h_11 =>
    rw [toUpper_of_isCapital isCapital]
    rfl
  all_goals
    exact absurd isAscii (by decide)

/-- Digits and capital letters are left as they are. -/
theorem upperCase_eq_self
    {characters : List Char}
    (areUpper :
      ∀ character ∈ characters,
        isAsciiDigit character = true ∨
          'A' ≤ character ∧ character ≤ 'Z') :
    upperCase characters = characters := by
  induction characters with
  | nil =>
      rfl
  | cons character rest inductionHypothesis =>
      rw [List.forall_mem_cons] at areUpper
      have first : upperCase [character] = [character] := by
        rcases areUpper.1 with isDigit | isCapital
        · have isCode : ∀ code ∈ [character], IsCode code :=
            List.forall_mem_singleton.mpr (.inl isDigit)
          rw [upperCase_eq_iff isCode, List.map_singleton,
            (toUpper_eq_iff_of_isAsciiDigit isDigit).mpr rfl]
        · exact upperCase_singleton_of_isCapital isCapital
      change upperCase ([character] ++ rest) = _
      rw [upperCase, List.flatMap_append]
      change upperCase [character] ++ upperCase rest = _
      rw [first, inductionHypothesis areUpper.2]
      rfl

end FormCheck.Text
