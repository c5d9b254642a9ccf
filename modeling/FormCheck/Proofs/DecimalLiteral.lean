import FormCheck.Proofs.DecimalValue
import Mathlib.Data.Bool.AllAny

namespace FormCheck.Number.Decimal

/-!
# Decimal literals

A decimal literal is an optional sign, digits with an optional point, and an
optional exponent. The digits may be those of any script. Every literal is read as
the number that it denotes, and nothing else is read.
-/

/-! ## The grammar of literals -/

/-- Characters write digits if each of them is one, in whatever script. -/
abbrev Writes
    (characters : List Char)
    (digits : List Nat) : Prop :=
  List.Forall₂
    (fun character digit => Text.digit? character = some digit)
    characters digits

/-- The number that digits stand for, the most significant one first. -/
def numberOf
    (digits : List Nat) : Nat :=
  Nat.ofDigits 10 digits.reverse

/-- An optional sign, and whether it is a minus sign. -/
inductive IsSign : List Char → Bool → Prop where
  | missing : IsSign [] false
  | plus : IsSign ['+'] false
  | minus : IsSign ['-'] true

/--
Digits with an optional point, together with the number of places behind it. There
is a digit on one side of the point at least.
-/
inductive IsMantissa : List Char → List Nat → Nat → Prop where
  | whole
      {characters : List Char}
      {digits : List Nat}
      (writes : Writes characters digits)
      (present : digits ≠ []) :
      IsMantissa characters digits 0
  | pointed
      {characters others : List Char}
      {digits fraction : List Nat}
      (writes : Writes characters digits)
      (writesFraction : Writes others fraction)
      (present : digits ++ fraction ≠ []) :
      IsMantissa (characters ++ '.' :: others) (digits ++ fraction)
        fraction.length

/-- An optional exponent: a letter, an optional sign and digits. -/
inductive IsExponent : List Char → Int → Prop where
  | missing : IsExponent [] 0
  | written
      {letter : Char}
      {sign characters : List Char}
      {negative : Bool}
      {digits : List Nat}
      (isLetter : letter = 'e' ∨ letter = 'E')
      (isSign : IsSign sign negative)
      (writes : Writes characters digits)
      (present : digits ≠ []) :
      IsExponent (letter :: (sign ++ characters))
        (withSign negative (numberOf digits : Int))

/-- A literal, with the coefficient and the power of ten that it stands for. -/
inductive IsLiteral : List Char → Decimal → Prop where
  | joined
      {sign mantissa exponent : List Char}
      {negative : Bool}
      {digits : List Nat}
      {places : Nat}
      {power : Int}
      (isSign : IsSign sign negative)
      (isMantissa : IsMantissa mantissa digits places)
      (isExponent : IsExponent exponent power) :
      IsLiteral (sign ++ (mantissa ++ exponent))
        ⟨negative, numberOf digits, power - places⟩

/-! ## Digits of any script -/

section Characters

variable
  {character : Char}
  {digit : Nat}

/-- Among the characters of ASCII the digits are those of ASCII. -/
theorem digit?_of_ascii
    (ascii : character.toNat < 0x80) :
    Text.digit? character =
      if Text.isAsciiDigit character then some (character.toNat - 48)
      else none := by
  apply Text.forall_of_forall_code ascii
  decide +kernel

/-- A digit stands for less than ten. -/
theorem lt_ten_of_digit?
    (isDigit : Text.digit? character = some digit) :
    digit < 10 := by
  unfold Text.digit? at isDigit
  obtain ⟨first, found, rfl⟩ := Option.map_eq_some_iff.mp isDigit
  have isRun := List.find?_some found
  simp only [Bool.and_eq_true, decide_eq_true_eq] at isRun
  omega

/-- A digit is written as the digit of ASCII that stands for the same. -/
theorem plainCharacter_of_digit?
    (isDigit : Text.digit? character = some digit) :
    plainCharacter character = Nat.digitChar digit := by
  unfold plainCharacter
  split
  case isTrue ascii =>
    have isSame :
        Text.isAsciiDigit character = true →
          character = Nat.digitChar (character.toNat - 48) := by
      apply Text.forall_of_forall_code ascii
      decide +kernel
    rw [digit?_of_ascii ascii] at isDigit
    split at isDigit
    case isTrue isAsciiDigit =>
      cases isDigit
      exact isSame isAsciiDigit
    case isFalse =>
      cases isDigit
  case isFalse =>
    rw [isDigit]

/-- The digits of ASCII are those that the digits of any script are written as. -/
theorem isAsciiDigit_plainCharacter_iff :
    Text.isAsciiDigit (plainCharacter character) = true ↔
      ∃ digit, Text.digit? character = some digit := by
  constructor
  · intro isPlain
    unfold plainCharacter at isPlain
    split at isPlain
    case isTrue ascii =>
      exact ⟨_, by rw [digit?_of_ascii ascii, if_pos isPlain]⟩
    case isFalse =>
      split at isPlain
      case h_1 digit isDigit =>
        exact ⟨digit, isDigit⟩
      case h_2 =>
        cases isPlain
  · rintro ⟨digit, isDigit⟩
    have areDigits :
        ∀ value < 10, Text.isAsciiDigit (Nat.digitChar value) = true := by
      decide
    rw [plainCharacter_of_digit? isDigit]
    exact areDigits digit (lt_ten_of_digit? isDigit)

/-- A digit is no sign. -/
theorem noSign_of_digit?
    (isDigit : Text.digit? character = some digit) :
    character ≠ '+' ∧ character ≠ '-' := by
  constructor
  · rintro rfl
    cases isDigit
  · rintro rfl
    cases isDigit

/-- No character but itself is written as a sign, a point or a letter. -/
theorem plainCharacter_eq_iff
    {mark : Char}
    (isMark : mark ∈ ['+', '-', '.', 'e', 'E']) :
    plainCharacter character = mark ↔ character = mark := by
  have areAscii :
      ∀ other ∈ ['+', '-', '.', 'e', 'E'],
        other.toNat < 0x80 ∧ other ≠ '?' ∧
          ∀ value < 10, Nat.digitChar value ≠ other :=
    List.all_iff_forall_prop.mp rfl
  obtain ⟨ascii, notUnknown, notDigit⟩ := areAscii mark isMark
  unfold plainCharacter
  split
  case isTrue =>
    exact Iff.rfl
  case isFalse notAscii =>
    refine iff_of_false ?_ fun isSame => notAscii (isSame ▸ ascii)
    split
    case h_1 digit isDigit =>
      exact notDigit digit (lt_ten_of_digit? isDigit)
    case h_2 =>
      exact notUnknown.symm

end Characters

section Rows

variable
  {characters : List Char}
  {digits : List Nat}

/-- Characters write digits exactly if they are written as digits of ASCII. -/
theorem exists_writes_iff :
    (∃ digits, Writes characters digits) ↔
      ∀ plain ∈ characters.map plainCharacter,
        Text.isAsciiDigit plain = true := by
  induction characters with
  | nil =>
      exact iff_of_true ⟨[], .nil⟩ (List.forall_mem_nil _)
  | cons character rest inductionHypothesis =>
      rw [List.map_cons, List.forall_mem_cons,
        isAsciiDigit_plainCharacter_iff, ← inductionHypothesis]
      constructor
      · rintro ⟨_, writes⟩
        cases writes with
        | cons isDigit others =>
            exact ⟨⟨_, isDigit⟩, _, others⟩
      · rintro ⟨⟨_, isDigit⟩, _, others⟩
        exact ⟨_, .cons isDigit others⟩

/-- Digits stand for the number that they are read as. -/
theorem numberOfAscii_of_writes
    (writes : Writes characters digits) :
    Text.numberOfAscii (characters.map plainCharacter) =
      numberOf digits := by
  have areRead :
      ((characters.map plainCharacter).map fun plain => plain.toNat - 48) =
        digits := by
    induction writes with
    | nil =>
        rfl
    | cons isDigit _ inductionHypothesis =>
        have areValues :
            ∀ value < 10, (Nat.digitChar value).toNat - 48 = value := by
          decide
        rw [List.map_cons, List.map_cons, inductionHypothesis,
          plainCharacter_of_digit? isDigit,
          areValues _ (lt_ten_of_digit? isDigit)]
  unfold Text.numberOfAscii numberOf
  rw [areRead, Text.numberOfDigits_eq_ofDigits]

/-- There are no digits exactly if there are no characters. -/
theorem map_eq_nil_iff_of_writes
    (writes : Writes characters digits) :
    characters.map plainCharacter = [] ↔ digits = [] := by
  cases writes with
  | nil =>
      exact iff_of_true rfl rfl
  | cons =>
      exact iff_of_false (List.cons_ne_nil _ _) (List.cons_ne_nil _ _)

end Rows

/-! ## Reading literals -/

/-- The sign in front of characters, and the characters behind it. -/
def signAndRest : List Char → Bool × List Char
  | '-' :: rest => (true, rest)
  | '+' :: rest => (false, rest)
  | rest => (false, rest)

/-- Characters that begin with no sign have none in front. -/
theorem signAndRest_of_noSign
    {plain : List Char}
    (noMinus : ∀ rest, plain ≠ '-' :: rest)
    (noPlus : ∀ rest, plain ≠ '+' :: rest) :
    signAndRest plain = (false, plain) := by
  unfold signAndRest
  split
  case h_1 rest =>
    exact absurd rfl (noMinus rest)
  case h_2 rest =>
    exact absurd rfl (noPlus rest)
  case h_3 =>
    rfl

/-- Behind a sign an unsigned literal is read. -/
theorem signed?_eq
    (plain : List Char) :
    signed? plain =
      unsigned? (signAndRest plain).1 (signAndRest plain).2 := by
  unfold signed?
  split
  case h_1 | h_2 =>
    rfl
  case h_3 noMinus noPlus =>
    rw [signAndRest_of_noSign noMinus noPlus]

/-- Behind a letter a sign and digits are read as the exponent. -/
theorem exponent?_cons
    (letter : Char)
    (plain : List Char) :
    exponent? (letter :: plain) =
      if letter = 'e' ∨ letter = 'E' then
        if (signAndRest plain).2.isEmpty ||
            !(signAndRest plain).2.all Text.isAsciiDigit then
          none
        else
          some (withSign (signAndRest plain).1
            (Text.numberOfAscii (signAndRest plain).2 : Int))
      else
        none := by
  unfold exponent?
  simp only [Bool.or_eq_true, decide_eq_true_eq]
  congr 1

/-- Digits are taken up to what begins with none. -/
theorem span_of_digits
    {whole rest : List Char}
    (areDigits : ∀ plain ∈ whole, Text.isAsciiDigit plain = true)
    (stops : ∀ plain ∈ rest.head?, Text.isAsciiDigit plain = false) :
    (whole ++ rest).takeWhile Text.isAsciiDigit = whole ∧
      (whole ++ rest).dropWhile Text.isAsciiDigit = rest := by
  rw [List.takeWhile_append_of_pos areDigits,
    List.dropWhile_append_of_pos areDigits]
  cases rest with
  | nil =>
      exact ⟨List.append_nil _, rfl⟩
  | cons plain others =>
      have isOther : ¬Text.isAsciiDigit plain = true := by
        rw [stops plain rfl]
        exact Bool.false_ne_true
      rw [List.takeWhile_cons_of_neg isOther,
        List.dropWhile_cons_of_neg isOther]
      exact ⟨List.append_nil _, rfl⟩

/-- Digits without a point are read up to what begins with neither. -/
theorem unsigned?_of_whole
    {whole rest : List Char}
    (areDigits : ∀ plain ∈ whole, Text.isAsciiDigit plain = true)
    (stops :
      ∀ plain ∈ rest.head?, Text.isAsciiDigit plain = false ∧ plain ≠ '.')
    (negative : Bool) :
    unsigned? negative (whole ++ rest) =
      if whole = [] then none
      else
        (exponent? rest).map fun power =>
          ⟨negative, Text.numberOfAscii whole, power⟩ := by
  obtain ⟨taken, dropped⟩ :=
    span_of_digits areDigits fun plain isFirst => (stops plain isFirst).1
  unfold unsigned?
  rw [taken, dropped]
  dsimp only
  split
  case h_1 others =>
    exact absurd rfl (stops '.' rfl).2
  case h_2 =>
    simp

/-- Digits with a point are read up to what begins with no digit. -/
theorem unsigned?_of_pointed
    {whole fraction rest : List Char}
    (areDigits : ∀ plain ∈ whole, Text.isAsciiDigit plain = true)
    (fractionDigits :
      ∀ plain ∈ fraction, Text.isAsciiDigit plain = true)
    (stops : ∀ plain ∈ rest.head?, Text.isAsciiDigit plain = false)
    (negative : Bool) :
    unsigned? negative (whole ++ '.' :: (fraction ++ rest)) =
      if whole ++ fraction = [] then none
      else
        (exponent? rest).map fun power =>
          ⟨negative, Text.numberOfAscii (whole ++ fraction),
            power - fraction.length⟩ := by
  have pointStops :
      ∀ plain ∈ ('.' :: (fraction ++ rest)).head?,
        Text.isAsciiDigit plain = false := by
    rintro _ ⟨⟩
    rfl
  obtain ⟨taken, dropped⟩ := span_of_digits areDigits pointStops
  obtain ⟨takenThen, droppedThen⟩ := span_of_digits fractionDigits stops
  unfold unsigned?
  rw [taken, dropped]
  simp [takenThen, droppedThen]

section Reading

variable
  {characters sign mantissa exponent : List Char}
  {digits : List Nat}
  {negative : Bool}
  {places : Nat}
  {power : Int}
  {number : Decimal}

/-- A sign is read as one in front of what begins with none. -/
theorem signAndRest_of_isSign
    (isSign : IsSign sign negative)
    (noSign : ∀ mark ∈ characters.head?, mark ≠ '+' ∧ mark ≠ '-') :
    signAndRest ((sign ++ characters).map plainCharacter) =
      (negative, characters.map plainCharacter) := by
  cases isSign with
  | missing =>
      rw [List.nil_append]
      apply signAndRest_of_noSign
      · intro rest begins
        obtain ⟨mark, others, rfl, isMinus, _⟩ :=
          List.map_eq_cons_iff.mp begins
        rw [plainCharacter_eq_iff (by decide)] at isMinus
        exact (noSign mark rfl).2 isMinus
      · intro rest begins
        obtain ⟨mark, others, rfl, isPlus, _⟩ :=
          List.map_eq_cons_iff.mp begins
        rw [plainCharacter_eq_iff (by decide)] at isPlus
        exact (noSign mark rfl).1 isPlus
  | plus | minus =>
      rfl

/-- Whatever is read as a sign is one. -/
theorem exists_isSign
    (characters : List Char) :
    ∃ sign rest,
      IsSign sign (signAndRest (characters.map plainCharacter)).1 ∧
        characters = sign ++ rest ∧
        (signAndRest (characters.map plainCharacter)).2 =
          rest.map plainCharacter := by
  have isMissing
      (noSign : ∀ mark ∈ characters.head?, mark ≠ '+' ∧ mark ≠ '-') :=
    signAndRest_of_isSign .missing noSign
  rw [List.nil_append] at isMissing
  by_cases noSign : ∀ mark ∈ characters.head?, mark ≠ '+' ∧ mark ≠ '-'
  · rw [isMissing noSign]
    exact ⟨[], characters, .missing, rfl, rfl⟩
  · cases characters with
    | nil =>
        exact absurd (fun _ member => nomatch member) noSign
    | cons mark rest =>
        by_cases isPlus : mark = '+'
        · subst isPlus
          exact ⟨['+'], rest, .plus, rfl, rfl⟩
        · by_cases isMinus : mark = '-'
          · subst isMinus
            exact ⟨['-'], rest, .minus, rfl, rfl⟩
          · refine absurd ?_ noSign
            rintro _ ⟨⟩
            exact ⟨isPlus, isMinus⟩

/-- Digits begin with no sign. -/
theorem noSign_of_writes
    (writes : Writes characters digits) :
    ∀ mark ∈ characters.head?, mark ≠ '+' ∧ mark ≠ '-' := by
  cases writes with
  | nil =>
      exact fun _ isFirst => nomatch isFirst
  | cons isDigit _ =>
      rintro _ ⟨⟩
      exact noSign_of_digit? isDigit

/-- An exponent is read as the power of ten that it stands for. -/
theorem exponent?_of_isExponent
    (isExponent : IsExponent characters power) :
    exponent? (characters.map plainCharacter) = some power := by
  cases isExponent with
  | missing =>
      rfl
  | @written letter sign characters negative digits isLetter isSign writes
      present =>
      have isPlain : plainCharacter letter = letter := by
        rcases isLetter with rfl | rfl <;> rfl
      have areDigits :
          (characters.map plainCharacter).all Text.isAsciiDigit = true :=
        List.all_eq_true.mpr (exists_writes_iff.mp ⟨digits, writes⟩)
      rw [List.map_cons, isPlain, exponent?_cons, if_pos isLetter,
        signAndRest_of_isSign isSign (noSign_of_writes writes)]
      dsimp only
      rw [areDigits, List.isEmpty_eq_false_iff.mpr
          (mt (map_eq_nil_iff_of_writes writes).mp present),
        if_neg (by decide), numberOfAscii_of_writes writes]

/-- Whatever is read as an exponent is one. -/
theorem isExponent_of_exponent?
    (isRead : exponent? (characters.map plainCharacter) = some power) :
    IsExponent characters power := by
  cases characters with
  | nil =>
      cases isRead
      exact .missing
  | cons letter rest =>
      rw [List.map_cons, exponent?_cons] at isRead
      split at isRead
      case isFalse =>
        cases isRead
      case isTrue isLetter =>
        rw [plainCharacter_eq_iff (by decide),
          plainCharacter_eq_iff (by decide)] at isLetter
        obtain ⟨sign, others, isSign, rfl, isRest⟩ := exists_isSign rest
        rw [isRest] at isRead
        split at isRead
        case isTrue =>
          cases isRead
        case isFalse areDigits =>
          rw [Bool.or_eq_true, not_or, List.isEmpty_iff, Bool.not_eq_true,
            Bool.not_eq_false', List.all_eq_true] at areDigits
          obtain ⟨digits, writes⟩ := exists_writes_iff.mpr areDigits.2
          rw [numberOfAscii_of_writes writes] at isRead
          cases isRead
          exact .written isLetter isSign writes
            (mt (map_eq_nil_iff_of_writes writes).mpr areDigits.1)

/-- An exponent begins with neither a digit nor a point. -/
theorem stops_of_isExponent
    (isExponent : IsExponent exponent power) :
    ∀ plain ∈ (exponent.map plainCharacter).head?,
      Text.isAsciiDigit plain = false ∧ plain ≠ '.' := by
  cases isExponent with
  | missing =>
      exact fun _ member => nomatch member
  | written isLetter isSign writes present =>
      rintro _ ⟨⟩
      rcases isLetter with rfl | rfl <;> decide

/-- Digits of any script without a point are read up to what begins with neither. -/
theorem unsigned?_of_writes
    (writes : Writes mantissa digits)
    (stops :
      ∀ plain ∈ (exponent.map plainCharacter).head?,
        Text.isAsciiDigit plain = false ∧ plain ≠ '.')
    (negative : Bool) :
    unsigned? negative ((mantissa ++ exponent).map plainCharacter) =
      if digits = [] then none
      else
        (exponent? (exponent.map plainCharacter)).map fun power =>
          ⟨negative, numberOf digits, power⟩ := by
  rw [List.map_append,
    unsigned?_of_whole (exists_writes_iff.mp ⟨_, writes⟩) stops,
    numberOfAscii_of_writes writes]
  simp only [map_eq_nil_iff_of_writes writes]

/-- Digits of any script with a point are read up to what begins with no digit. -/
theorem unsigned?_of_writes_pointed
    {others : List Char}
    {fraction : List Nat}
    (writes : Writes mantissa digits)
    (writesFraction : Writes others fraction)
    (stops :
      ∀ plain ∈ (exponent.map plainCharacter).head?,
        Text.isAsciiDigit plain = false)
    (negative : Bool) :
    unsigned? negative
        ((mantissa ++ '.' :: others ++ exponent).map plainCharacter) =
      if digits ++ fraction = [] then none
      else
        (exponent? (exponent.map plainCharacter)).map fun power =>
          ⟨negative, numberOf (digits ++ fraction),
            power - fraction.length⟩ := by
  have writesBoth : Writes (mantissa ++ others) (digits ++ fraction) :=
    List.rel_append writes writesFraction
  have isPlain :
      (mantissa ++ '.' :: others ++ exponent).map plainCharacter =
        mantissa.map plainCharacter ++
          '.' ::
            (others.map plainCharacter ++ exponent.map plainCharacter) := by
    rw [List.append_assoc, List.cons_append, List.map_append, List.map_cons,
      List.map_append]
    rfl
  rw [isPlain,
    unsigned?_of_pointed (exists_writes_iff.mp ⟨_, writes⟩)
      (exists_writes_iff.mp ⟨_, writesFraction⟩) stops,
    ← List.map_append, numberOfAscii_of_writes writesBoth, List.length_map,
    writesFraction.length_eq]
  simp only [map_eq_nil_iff_of_writes writesBoth]

/-- A mantissa and an exponent are read as an unsigned number. -/
theorem unsigned?_of_isMantissa
    (isMantissa : IsMantissa mantissa digits places)
    (isExponent : IsExponent exponent power)
    (negative : Bool) :
    unsigned? negative ((mantissa ++ exponent).map plainCharacter) =
      some ⟨negative, numberOf digits, power - places⟩ := by
  have stops := stops_of_isExponent isExponent
  have isRead := exponent?_of_isExponent isExponent
  cases isMantissa with
  | whole writes present =>
      rw [unsigned?_of_writes writes stops, if_neg present, isRead,
        Option.map_some, Nat.cast_zero, sub_zero]
  | pointed writes writesFraction present =>
      rw [unsigned?_of_writes_pointed writes writesFraction
        fun plain isFirst => (stops plain isFirst).1, if_neg present, isRead,
        Option.map_some]

/-- Characters begin with digits, and then with what is none. -/
theorem exists_writes_append
    (characters : List Char) :
    ∃ whole digits rest,
      characters = whole ++ rest ∧ Writes whole digits ∧
        ∀ plain ∈ (rest.map plainCharacter).head?,
          Text.isAsciiDigit plain = false := by
  let isDigit := fun character =>
    Text.isAsciiDigit (plainCharacter character)
  have areDigits :
      ∀ plain ∈ (characters.takeWhile isDigit).map plainCharacter,
        Text.isAsciiDigit plain = true := by
    rw [List.forall_mem_map]
    exact fun character member =>
      List.mem_takeWhile_imp (p := isDigit) member
  obtain ⟨digits, writes⟩ := exists_writes_iff.mpr areDigits
  refine ⟨characters.takeWhile isDigit, digits,
    characters.dropWhile isDigit, List.takeWhile_append_dropWhile.symm,
    writes, ?_⟩
  have stops := List.head?_dropWhile_not isDigit characters
  cases remaining : characters.dropWhile isDigit with
  | nil =>
      exact fun _ isFirst => nomatch isFirst
  | cons character others =>
      rw [remaining] at stops
      rintro _ ⟨⟩
      simpa using stops

/-- Whatever is read as an unsigned number is a mantissa and an exponent. -/
theorem exists_of_unsigned?
    (isRead :
      unsigned? negative (characters.map plainCharacter) = some number) :
    ∃ mantissa exponent digits places power,
      IsMantissa mantissa digits places ∧ IsExponent exponent power ∧
        characters = mantissa ++ exponent ∧
        number = ⟨negative, numberOf digits, power - places⟩ := by
  obtain ⟨whole, digits, remaining, rfl, writes, stops⟩ :=
    exists_writes_append characters
  by_cases pointed :
    ∀ plain ∈ (remaining.map plainCharacter).head?, plain ≠ '.'
  · rw [unsigned?_of_writes writes fun plain isFirst =>
      ⟨stops plain isFirst, pointed plain isFirst⟩] at isRead
    split at isRead
    case isTrue =>
      cases isRead
    case isFalse present =>
      obtain ⟨power, isPower, rfl⟩ := Option.map_eq_some_iff.mp isRead
      refine ⟨whole, remaining, digits, 0, power, .whole writes present,
        isExponent_of_exponent? isPower, rfl, ?_⟩
      rw [Nat.cast_zero, sub_zero]
  · simp only [ne_eq, not_forall, not_not] at pointed
    obtain ⟨_, isFirst, rfl⟩ := pointed
    rw [List.head?_map, Option.mem_map] at isFirst
    obtain ⟨point, isFirst, isPoint⟩ := isFirst
    obtain ⟨others, rfl⟩ := List.head?_eq_some_iff.mp isFirst
    rw [plainCharacter_eq_iff (by decide)] at isPoint
    subst isPoint
    obtain ⟨behind, fraction, rest, rfl, writesFraction, stopsThen⟩ :=
      exists_writes_append others
    have isSplit :
        whole ++ '.' :: (behind ++ rest) = whole ++ '.' :: behind ++ rest := by
      rw [List.append_assoc, List.cons_append]
    rw [isSplit, unsigned?_of_writes_pointed writes writesFraction stopsThen]
      at isRead
    split at isRead
    case isTrue =>
      cases isRead
    case isFalse present =>
      obtain ⟨power, isPower, rfl⟩ := Option.map_eq_some_iff.mp isRead
      exact ⟨_, rest, _, _, power, .pointed writes writesFraction present,
        isExponent_of_exponent? isPower, isSplit, rfl⟩

/-- A mantissa begins with no sign. -/
theorem noSign_of_isMantissa
    (isMantissa : IsMantissa mantissa digits places)
    (exponent : List Char) :
    ∀ mark ∈ (mantissa ++ exponent).head?, mark ≠ '+' ∧ mark ≠ '-' := by
  cases isMantissa with
  | whole writes present =>
      cases writes with
      | nil =>
          cases present rfl
      | cons isDigit _ =>
          rintro _ ⟨⟩
          exact noSign_of_digit? isDigit
  | pointed writes =>
      cases writes with
      | nil =>
          rintro _ ⟨⟩
          decide
      | cons isDigit _ =>
          rintro _ ⟨⟩
          exact noSign_of_digit? isDigit

/-- Exactly the literals are read, each as the number that it stands for. -/
theorem signed?_eq_some_iff :
    signed? (characters.map plainCharacter) = some number ↔
      IsLiteral characters number := by
  rw [signed?_eq]
  constructor
  · intro isRead
    obtain ⟨sign, rest, isSign, rfl, isRest⟩ := exists_isSign characters
    rw [isRest] at isRead
    obtain ⟨mantissa, exponent, digits, places, power, isMantissa,
      isExponent, rfl, rfl⟩ := exists_of_unsigned? isRead
    exact .joined isSign isMantissa isExponent
  · intro isLiteral
    cases isLiteral with
    | joined isSign isMantissa isExponent =>
        rw [signAndRest_of_isSign isSign
          (noSign_of_isMantissa isMantissa _)]
        exact unsigned?_of_isMantissa isMantissa isExponent _

end Reading

end FormCheck.Number.Decimal
