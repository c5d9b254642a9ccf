import FormCheck.Proofs.Check.Decision.Semester
import FormCheck.Proofs.Complaints
import FormCheck.Proofs.UpperCase

namespace FormCheck

/-!
# What is accepted as a program number

A program number is a year of four digits, a tag and three digits. Its rulings
end with the first part that is rejected, so they are of one of four forms. What
is accepted is a program number between blanks, whose tag may be typed in lower
case.
-/

/-! ## The parts of a program number -/

/-- Characters have parts if they are four digits, a capital letter and digits. -/
structure Check.HasParts
    (characters year : List Char)
    (tag : Char)
    (number : List Char) : Prop where
  split : characters = year ++ tag :: number
  yearSize : year.length = 4
  yearDigits : ∀ digit ∈ year, Text.isAsciiDigit digit = true
  isCapital : 'A' ≤ tag ∧ tag ≤ 'Z'
  numberDigits : ∀ digit ∈ number, Text.isAsciiDigit digit = true

/-- The parts of characters are found if nothing but digits is behind the tag. -/
theorem Check.hasParts_iff
    {characters year number : List Char}
    {tag : Char} :
    HasParts characters year tag number ↔
      yearAndTag? characters = some (year, tag, number) ∧
        number.all Text.isAsciiDigit = true := by
  constructor
  · rintro ⟨rfl, yearSize, yearDigits, isCapital, numberDigits⟩
    refine ⟨?_, List.all_eq_true.mpr numberDigits⟩
    match year, yearSize with
    | [first, second, third, fourth], _ =>
        have isYear :
            [first, second, third, fourth].all Text.isAsciiDigit = true :=
          List.all_eq_true.mpr yearDigits
        simp only [List.cons_append, List.nil_append, yearAndTag?, isYear,
          isCapital.1, isCapital.2, decide_true, Bool.and_self, ↓reduceIte]
  · rintro ⟨found, numberDigits⟩
    obtain ⟨split, yearSize, yearDigits, isCapital⟩ :=
      split_of_yearAndTag? found
    exact ⟨split, yearSize, yearDigits, isCapital,
      List.all_eq_true.mp numberDigits⟩

/-- Characters have parts in one way only. -/
theorem Check.HasParts.unique
    {characters year number otherYear otherNumber : List Char}
    {tag otherTag : Char}
    (parts : HasParts characters year tag number)
    (others : HasParts characters otherYear otherTag otherNumber) :
    year = otherYear ∧ tag = otherTag ∧ number = otherNumber := by
  have found := (hasParts_iff.mp parts).1
  rw [(hasParts_iff.mp others).1] at found
  cases found
  exact ⟨rfl, rfl, rfl⟩

/-- Nothing is blank in characters that have parts. -/
theorem Check.HasParts.visible
    {characters year number : List Char}
    {tag : Char}
    (parts : HasParts characters year tag number) :
    ∀ character ∈ characters, Text.isBlank character = false := by
  have isCapital : 65 ≤ tag.toNat ∧ tag.toNat ≤ 90 :=
    parts.isCapital
  have areAlphanumeric :
      ∀ character ∈ characters,
        Text.isAsciiAlphanumeric character = true := by
    rw [parts.split, List.forall_mem_append, List.forall_mem_cons]
    exact
      ⟨fun digit member =>
          Text.isAsciiAlphanumeric_of_isAsciiDigit
            (parts.yearDigits digit member),
        Text.isAsciiAlphanumeric_iff.mpr (.inr (.inl isCapital)),
        fun digit member =>
          Text.isAsciiAlphanumeric_of_isAsciiDigit
            (parts.numberDigits digit member)⟩
  exact fun character member =>
    Text.isBlank_of_isAsciiAlphanumeric (areAlphanumeric character member)

/-- Digits are accepted exactly if the number that they write is within bounds. -/
theorem Verdict.isRejected_integerIn_of_digits
    {digits : List Char}
    (present : digits ≠ [])
    (areDigits : ∀ digit ∈ digits, Text.isAsciiDigit digit = true)
    (short : digits.length ≤ 4)
    (least greatest : Int) :
    (integerIn (.text (String.ofList digits)) (some least)
        (some greatest)).isRejected =
      !decide
        (least ≤ Text.numberOfAscii digits ∧
          Text.numberOfAscii digits ≤ greatest) := by
  unfold integerIn
  rw [Value.toInt?_of_fewDigits present areDigits short]
  simp [IsWithin]

/-- A letter is among the tags of semesters exactly if it is one of them. -/
theorem Value.contains_tags
    (letter : Char) :
    [Value.text "A", Value.text "B"].contains
        (.text (String.ofList [letter])) =
      decide (letter ∈ ['A', 'B']) := by
  have sameText
      (tag : Char) :
      (Value.text (String.ofList [letter]) ==
          Value.text (String.ofList [tag])) =
        decide (letter = tag) := by
    rw [Value.text_beq_text, Bool.eq_iff_iff, beq_iff_eq,
      String.ofList_inj, List.singleton_inj, decide_eq_true_eq]
  change
    [Value.text (String.ofList ['A']),
        Value.text (String.ofList ['B'])].contains _ = _
  rw [List.contains_cons, List.contains_cons, sameText, sameText]
  simp

/-- A capital letter is accepted exactly if it is a tag. -/
theorem Verdict.isRejected_semesterTag_of_isCapital
    {letter : Char}
    (isCapital : 'A' ≤ letter ∧ letter ≤ 'Z') :
    (semesterTag (String.ofList [letter])).isRejected =
      !decide (letter ∈ ['A', 'B']) := by
  have short :
      (textWithin (String.ofList [letter]) 1).isRejected = false := by
    unfold textWithin
    simp
  unfold semesterTag
  rw [if_neg (Bool.eq_false_iff.mp short), String.toList_ofList,
    Text.upperCase_singleton_of_isCapital isCapital]
  unfold textAmong
  rw [isRejected_provided, Value.contains_tags, Bool.decide_eq_true]

/-- The verdict on a tag is brief. -/
theorem Verdict.isBrief_semesterTag
    (text : String) :
    (semesterTag text).IsBrief := by
  unfold semesterTag
  split
  · exact isBrief_provided ..
  · exact isBrief_provided ..

namespace Ruling

variable
  {field text : String}
  {earliest latest : Int}
  {characters year number : List Char}
  {tag : Char}

/-- A year and a tag are accepted if the year is within bounds and the tag is one. -/
theorem someFails_yearAndTag_iff
    (parts : Check.HasParts characters year tag number) :
    someFails (yearAndTag field year tag earliest latest) = false ↔
      (earliest ≤ Text.numberOfAscii year ∧
          Text.numberOfAscii year ≤ latest) ∧
        tag ∈ ['A', 'B'] := by
  have present : year ≠ [] :=
    List.ne_nil_of_length_eq_add_one parts.yearSize
  have inYears :=
    Verdict.isRejected_integerIn_of_digits present parts.yearDigits
      (Nat.le_of_eq parts.yearSize) earliest latest
  have isTag :=
    Verdict.isRejected_semesterTag_of_isCapital parts.isCapital
  unfold yearAndTag
  dsimp only
  split
  case isTrue rejected =>
    rw [inYears] at rejected
    rw [someFails_cons, inYears, rejected]
    simp only [Bool.not_eq_true', decide_eq_false_iff_not] at rejected
    simp [rejected]
  case isFalse accepted =>
    rw [inYears] at accepted
    rw [someFails_cons, someFails_cons, inYears, isTag]
    simp only [Bool.not_eq_true', decide_eq_false_iff_not, not_not]
      at accepted
    simp [accepted, or_iff_not_imp_left]

/-- There is one message at most about a year and a tag. -/
theorem areBriefOn_yearAndTag
    (field : String)
    (year : List Char)
    (tag : Char)
    (earliest latest : Int) :
    AreBriefOn field (yearAndTag field year tag earliest latest) := by
  unfold yearAndTag
  dsimp only
  split
  case isTrue =>
    exact .single (Verdict.isBrief_integerIn ..) (.part ..)
  case isFalse accepted =>
    rw [Bool.not_eq_true] at accepted
    rw [← List.singleton_append]
    apply AreBriefOn.append_of_passed
    · rw [someFails_cons, accepted]
      rfl
    · exact .single (Verdict.isBrief_semesterTag _) (.part ..)

/-- The ruling on the number of a program, three digits behind its tag. -/
def numberBehind
    (field : String)
    (number : List Char) : Ruling where
  key := field ++ "_" ++ "number"
  verdict :=
    .integerIn (.text (String.ofList number)) (some 1) (some 999)

/-- A number is accepted if it is not zero. -/
theorem isRejected_numberBehind
    (parts : Check.HasParts characters year tag number)
    (size : number.length = 3) :
    (numberBehind field number).verdict.isRejected = false ↔
      1 ≤ Text.numberOfAscii number ∧
        Text.numberOfAscii number ≤ 999 := by
  have present : number ≠ [] :=
    List.ne_nil_of_length_eq_add_one size
  have inBounds :=
    Verdict.isRejected_integerIn_of_digits present parts.numberDigits
      (by omega) 1 999
  unfold numberBehind
  rw [inBounds, Bool.not_eq_false', decide_eq_true_eq]
  omega

/-- Nothing is rejected if neither the year and the tag nor the number is. -/
theorem someFails_of_inBounds
    (passed :
      someFails (yearAndTag field year tag earliest latest) = false)
    (inBounds : (numberBehind field number).verdict.isRejected = false)
    (value : Value) :
    someFails
        (yearAndTag field year tag earliest latest ++
          [numberBehind field number, ⟨field, .accepted value⟩]) =
      false := by
  rw [someFails_append, passed, someFails_cons, inBounds]
  rfl

/--
The rulings on a program number: it has not the parts of one, or its year or its
tag is rejected, or its number is, or it is accepted in upper case.
-/
inductive OnProgramNumber
    (field text : String)
    (earliest latest : Int) : List Ruling → Prop where
  | shapeless
      (differs :
        ∀ year tag number,
          Check.HasParts (Check.upperText text) year tag number →
            number.length ≠ 3) :
      OnProgramNumber field text earliest latest
        [⟨field,
          .rejected "Invalid program number. Must look like 2025B001."
            []⟩]
  | wrongPart
      {year number : List Char}
      {tag : Char}
      (parts : Check.HasParts (Check.upperText text) year tag number)
      (size : number.length = 3)
      (failed :
        someFails (yearAndTag field year tag earliest latest) = true) :
      OnProgramNumber field text earliest latest
        (yearAndTag field year tag earliest latest)
  | wrongNumber
      {year number : List Char}
      {tag : Char}
      (parts : Check.HasParts (Check.upperText text) year tag number)
      (size : number.length = 3)
      (passed :
        someFails (yearAndTag field year tag earliest latest) = false)
      (rejected : (numberBehind field number).verdict.isRejected = true) :
      OnProgramNumber field text earliest latest
        (yearAndTag field year tag earliest latest ++
          [numberBehind field number])
  | accepted
      {year number : List Char}
      {tag : Char}
      (parts : Check.HasParts (Check.upperText text) year tag number)
      (size : number.length = 3)
      (passed :
        someFails (yearAndTag field year tag earliest latest) = false)
      (inBounds :
        (numberBehind field number).verdict.isRejected = false) :
      OnProgramNumber field text earliest latest
        (yearAndTag field year tag earliest latest ++
          [numberBehind field number,
            ⟨field,
              .accepted (.text (String.ofList (Check.upperText text)))⟩])

/-- The rulings on a program number are one of these. -/
theorem onProgramNumber
    (field text : String)
    (earliest latest : Int) :
    OnProgramNumber field text earliest latest
      (programNumber field text earliest latest) := by
  unfold programNumber
  split
  case h_1 digits tag hundreds tens units found =>
    split
    case isTrue numberDigits =>
      have parts :
          Check.HasParts (Check.upperText text) digits tag
            [hundreds, tens, units] :=
        Check.hasParts_iff.mpr ⟨found, numberDigits⟩
      dsimp only
      split
      case isTrue failed =>
        exact .wrongPart parts rfl failed
      case isFalse passed =>
        rw [Bool.not_eq_true] at passed
        split
        case isTrue rejected =>
          apply OnProgramNumber.wrongNumber parts rfl passed
          simpa only [numberBehind] using rejected
        case isFalse accepted =>
          apply OnProgramNumber.accepted parts rfl passed
          simpa only [numberBehind, Bool.not_eq_true] using accepted
    case isFalse otherwise =>
      apply OnProgramNumber.shapeless
      intro year tag number parts
      obtain ⟨foundToo, numberDigits⟩ := Check.hasParts_iff.mp parts
      cases found.symm.trans foundToo
      exact absurd numberDigits otherwise
  case h_2 differs =>
    apply OnProgramNumber.shapeless
    intro year tag number parts
    obtain ⟨found, _⟩ := Check.hasParts_iff.mp parts
    intro size
    match number, size with
    | [hundreds, tens, units], _ =>
        exact differs _ _ _ _ _ found

namespace OnProgramNumber

variable {rulings : List Ruling}

/-- Where nothing is rejected, each part is there and accepted. -/
theorem exists_parts_of_passed
    (decided : OnProgramNumber field text earliest latest rulings)
    (passed : someFails rulings = false) :
    ∃ year tag number,
      Check.HasParts (Check.upperText text) year tag number ∧
        number.length = 3 ∧
        someFails (yearAndTag field year tag earliest latest) = false ∧
        (numberBehind field number).verdict.isRejected = false ∧
        rulings =
          yearAndTag field year tag earliest latest ++
            [numberBehind field number,
              ⟨field,
                .accepted
                  (.text (String.ofList (Check.upperText text)))⟩] := by
  cases decided with
  | shapeless differs =>
      cases passed
  | wrongPart parts size failed =>
      rw [passed] at failed
      cases failed
  | wrongNumber parts size partsPassed rejected =>
      simp [rejected] at passed
  | accepted parts size partsPassed inBounds =>
      exact ⟨_, _, _, parts, size, partsPassed, inBounds, rfl⟩

/-- Nothing is rejected exactly if each part is there and accepted. -/
theorem someFails_iff
    (decided : OnProgramNumber field text earliest latest rulings) :
    someFails rulings = false ↔
      ∃ year tag number,
        Check.HasParts (Check.upperText text) year tag number ∧
          number.length = 3 ∧
          ((earliest ≤ Text.numberOfAscii year ∧
                Text.numberOfAscii year ≤ latest) ∧
              tag ∈ ['A', 'B']) ∧
          1 ≤ Text.numberOfAscii number ∧
            Text.numberOfAscii number ≤ 999 := by
  constructor
  · intro passed
    obtain ⟨year, tag, number, parts, size, partsPassed, inBounds, _⟩ :=
      decided.exists_parts_of_passed passed
    exact ⟨year, tag, number, parts, size,
      (someFails_yearAndTag_iff parts).mp partsPassed,
      (isRejected_numberBehind parts size).mp inBounds⟩
  · rintro ⟨year, tag, number, parts, size, valid, inBounds⟩
    have partsPassed :
        someFails (yearAndTag field year tag earliest latest) = false :=
      (someFails_yearAndTag_iff parts).mpr valid
    have accepted :
        (numberBehind field number).verdict.isRejected = false :=
      (isRejected_numberBehind parts size).mpr inBounds
    cases decided with
    | shapeless differs =>
        exact absurd size (differs year tag number parts)
    | wrongPart others _ failed =>
        obtain ⟨rfl, rfl, rfl⟩ := parts.unique others
        rw [partsPassed] at failed
        cases failed
    | wrongNumber others _ _ rejected =>
        obtain ⟨rfl, rfl, rfl⟩ := parts.unique others
        rw [accepted] at rejected
        cases rejected
    | accepted others _ passed inBoundsToo =>
        exact someFails_of_inBounds passed inBoundsToo _

/-- Where nothing is rejected, the upper case of the text is stored. -/
theorem verdictAt?_eq
    (decided : OnProgramNumber field text earliest latest rulings)
    (passed : someFails rulings = false) :
    verdictAt? field rulings =
      some (.accepted (.text (String.ofList (Check.upperText text)))) := by
  obtain ⟨year, tag, number, _, _, _, _, rfl⟩ :=
    decided.exists_parts_of_passed passed
  rw [List.append_cons]
  exact verdictAt?_concat ..

/-- There is one message at most, about the part that is rejected. -/
theorem areBriefOn
    (decided : OnProgramNumber field text earliest latest rulings) :
    AreBriefOn field rulings := by
  cases decided with
  | shapeless differs =>
      apply AreBriefOn.single _ (.self field)
      exact Nat.le_refl 1
  | wrongPart parts size failed =>
      exact areBriefOn_yearAndTag ..
  | wrongNumber parts size partsPassed rejected =>
      apply AreBriefOn.append_of_passed partsPassed
      exact AreBriefOn.single (Verdict.isBrief_integerIn ..) (.part ..)
  | accepted parts size partsPassed inBounds =>
      exact .of_passed (someFails_of_inBounds partsPassed inBounds _)

end OnProgramNumber

end Ruling

/-! ## Program numbers as they are typed -/

/--
A text is a program number if it is a year within bounds, a tag in upper or in
lower case and a number other than zero, in four and three ASCII digits.
-/
def IsProgramNumber
    (text : String)
    (earliest latest : Int) : Prop :=
  ∃ year tag number,
    text.toList = year ++ tag :: number ∧
      (year.length = 4 ∧ number.length = 3) ∧
      ((∀ digit ∈ year, Text.isAsciiDigit digit = true) ∧
        ∀ digit ∈ number, Text.isAsciiDigit digit = true) ∧
      tag ∈ ['A', 'B', 'a', 'b'] ∧
      (earliest ≤ Text.numberOfAscii year ∧
        Text.numberOfAscii year ≤ latest) ∧
      1 ≤ Text.numberOfAscii number ∧ Text.numberOfAscii number ≤ 999

/-- The upper case of a text has digits and a tag exactly if the text has. -/
theorem Check.upperText_eq_iff
    {text : String}
    {year number : List Char}
    {tag : Char}
    (yearDigits : ∀ digit ∈ year, Text.isAsciiDigit digit = true)
    (numberDigits : ∀ digit ∈ number, Text.isAsciiDigit digit = true)
    (isTag : tag ∈ ['A', 'B']) :
    upperText text = year ++ tag :: number ↔
      ∃ typed,
        typed.toUpper = tag ∧
          (Text.strip text).toList = year ++ typed :: number := by
  have areCodes :
      ∀ code ∈ year ++ tag :: number, Text.IsCode code := by
    rw [List.forall_mem_append, List.forall_mem_cons]
    refine ⟨fun digit member => .inl (yearDigits digit member), ?_,
      fun digit member => .inl (numberDigits digit member)⟩
    simpa [Text.IsCode] using Or.inr isTag
  unfold upperText Text.strip
  rw [Text.upperCase_eq_iff areCodes, String.toList_ofList,
    List.map_eq_append_iff]
  constructor
  · rintro ⟨front, back, split, isFront, isBack⟩
    obtain ⟨typed, behind, rfl, isUpper, isBehind⟩ :=
      List.map_eq_cons_iff.mp isBack
    rw [Text.map_toUpper_eq_iff_of_digits yearDigits] at isFront
    rw [Text.map_toUpper_eq_iff_of_digits numberDigits] at isBehind
    subst isFront isBehind
    exact ⟨typed, isUpper, split⟩
  · rintro ⟨typed, isUpper, split⟩
    refine ⟨year, typed :: number, split,
      (Text.map_toUpper_eq_iff_of_digits yearDigits).mpr rfl, ?_⟩
    rw [List.map_cons, isUpper,
      (Text.map_toUpper_eq_iff_of_digits numberDigits).mpr rfl]

/-- The tags of semesters are capital letters. -/
theorem Check.isCapital_of_mem_tags
    {tag : Char}
    (isTag : tag ∈ ['A', 'B']) :
    'A' ≤ tag ∧ tag ≤ 'Z' := by
  simp only [List.mem_cons, List.not_mem_nil, or_false] at isTag
  rcases isTag with rfl | rfl <;> decide

/-- A text is accepted exactly if it is a program number between blanks. -/
theorem Ruling.someFails_programNumber_iff
    {field text : String}
    {earliest latest : Int} :
    someFails (programNumber field text earliest latest) = false ↔
      IsProgramNumber (Text.strip text) earliest latest := by
  rw [(onProgramNumber field text earliest latest).someFails_iff]
  constructor
  · rintro ⟨year, tag, number,
      ⟨split, yearSize, yearDigits, _, numberDigits⟩, numberSize,
      ⟨inYears, isTag⟩, inNumbers⟩
    obtain ⟨typed, rfl, isTyped⟩ :=
      (Check.upperText_eq_iff yearDigits numberDigits isTag).mp split
    exact ⟨year, typed, number, isTyped, ⟨yearSize, numberSize⟩,
      ⟨yearDigits, numberDigits⟩, Text.toUpper_mem_tags_iff.mp isTag,
      inYears, inNumbers⟩
  · rintro ⟨year, typed, number, isTyped, ⟨yearSize, numberSize⟩,
      ⟨yearDigits, numberDigits⟩, isTag, inYears, inNumbers⟩
    rw [← Text.toUpper_mem_tags_iff] at isTag
    have split :=
      (Check.upperText_eq_iff yearDigits numberDigits isTag).mpr
        ⟨typed, rfl, isTyped⟩
    exact ⟨year, typed.toUpper, number,
      ⟨split, yearSize, yearDigits, Check.isCapital_of_mem_tags isTag,
        numberDigits⟩,
      numberSize, ⟨inYears, isTag⟩, inNumbers⟩

example : IsProgramNumber "2025b001" 1900 2026 :=
  ⟨['2', '0', '2', '5'], 'b', ['0', '0', '1'], by decide, by decide,
    ⟨List.all_eq_true.mp rfl, List.all_eq_true.mp rfl⟩, by decide⟩

end FormCheck
