import FormCheck.Proofs.Check.Passing
import FormCheck.Proofs.ProgramNumber
import FormCheck.Proofs.Semester

namespace FormCheck

/-!
# Dates in a semester

The check of a date in a semester checks both, each under a key of its own, and
compares the text of the semester that the date lies in with the submitted one.
It passes exactly if both are accepted and the date lies between the first and
the last day of the semester.
-/

namespace Check

variable
  {result : Result}
  {field : String}
  {entries : List Entry}
  {environment : Environment}
  {minimal latest : Int}

/-! ## Semesters that pass -/

/-- The entries that store the tag of a semester, as it is read and compared. -/
def tagEntries
    (key : String)
    (tag : Char) : List Entry :=
  [.value (.text key) (.text (String.ofList [tag])),
    .value (.text key) (.text (String.ofList [tag]))]

/-- A capital letter passes exactly if it is the tag of a semester. -/
theorem passes_semesterTag_iff
    {key : String}
    {tag : Char}
    (isCapital : 'A' ≤ tag ∧ tag ≤ 'Z')
    (clean : result.hasErrorsAt (.text key) = false) :
    (semesterTag (.text (String.ofList [tag])) (.text key)).Passes result ()
        entries ↔
      tag ∈ ['A', 'B'] ∧ entries = tagEntries key tag := by
  have isText :
      (Value.text (String.ofList [tag])).asText =
        .ok (String.ofList [tag]) :=
    rfl
  have storedClean :
      (result.extend
            [.value (.text key) (.text (String.ofList [tag]))]).hasErrorsAt
          (.text key) =
        false := by
    rwa [Result.hasErrorsAt_extend_of_quiet
      (List.forall_mem_singleton.mpr rfl)]
  have areTags :
      semesterTags.members = .ok [.text "A", .text "B"] :=
    rfl
  unfold semesterTag
  rw [passes_once_bind_iff fun _ => passes_textLength_iff,
    and_iff_right (by simp)]
  simp only [passes_hasErrors_bind_iff storedClean, Bool.false_eq_true,
    ↓reduceIte, isText, lift_ok_bind, String.toList_ofList,
    Text.upperCase_singleton_of_isCapital isCapital,
    passes_textAmong_iff areTags, Value.contains_tags, decide_eq_true_eq]
  constructor
  · rintro ⟨_, ⟨isTag, rfl⟩, rfl⟩
    exact ⟨isTag, rfl⟩
  · rintro ⟨isTag, rfl⟩
    exact ⟨_, ⟨isTag, rfl⟩, rfl⟩

/-- A tag is stored without a message. -/
theorem areQuiet_tagEntries
    (key : String)
    (tag : Char) :
    Entry.AreQuiet (tagEntries key tag) := by
  simp [tagEntries, Entry.AreQuiet, Entry.isError]

/-- Digits pass as a year exactly if the number that they write is within bounds. -/
theorem passes_year_of_digits_iff
    {key : String}
    {digits : List Char}
    (isLatest : environment.lastYear = .ok (.int latest))
    (areDigits : ∀ digit ∈ digits, Text.isAsciiDigit digit = true)
    (size : digits.length = 4)
    (clean : result.hasErrorsAt (.text key) = false) :
    (year environment (.text (String.ofList digits)) (.text key)
          (.int minimal) .null).Passes result () entries ↔
      (max earliestYear minimal ≤ Text.numberOfAscii digits ∧
          Text.numberOfAscii digits ≤ latest) ∧
        entries = integerEntries key (Text.numberOfAscii digits) := by
  have isRead :
      (Value.text (String.ofList digits)).toInt? =
        some (Text.numberOfAscii digits : Int) :=
    Value.toInt?_of_fewDigits (List.ne_nil_of_length_eq_add_one size)
      areDigits size.le
  have fits :
      (Value.text (String.ofList digits)).FitsInto environment.memory :=
    Value.fitsInto_fewDigits (List.ne_nil_of_length_eq_add_one size)
      areDigits size.le
  rw [passes_year_iff rfl isLatest clean]
  simp only [Value.integerWithin?_eq_some_iff, isRead, Option.some.injEq,
    fits, true_and]
  constructor
  · rintro ⟨_, ⟨rfl, inYears⟩, rfl⟩
    exact ⟨inYears, rfl⟩
  · rintro ⟨inYears, rfl⟩
    exact ⟨_, ⟨rfl, inYears⟩, rfl⟩

/-- A year and a tag pass exactly if the year does and the tag is one. -/
theorem passes_yearAndTag_iff_of_year
    {characters digits number : List Char}
    {tag : Char}
    {lower upper : Value}
    {inYears : Prop}
    {isValid : Bool}
    (passesYear :
      ∀ stored,
        (year environment (.text (String.ofList digits))
              (.text (field ++ "_" ++ "year")) lower upper).Passes result ()
            stored ↔
          inYears ∧
            stored =
              integerEntries (field ++ "_" ++ "year")
                (Text.numberOfAscii digits))
    (parts : HasParts characters digits tag number)
    (clean : result.CleanFor field) :
    (yearAndTag environment digits tag (.text field) lower upper).Passes
        result isValid entries ↔
      (inYears ∧ tag ∈ ['A', 'B']) ∧
        isValid = true ∧
          entries =
            integerEntries (field ++ "_" ++ "year")
                (Text.numberOfAscii digits) ++
              tagEntries (field ++ "_" ++ "tag") tag := by
  have yearClean :=
    (Result.cleanFor_extend_iff
      (areQuiet_integerEntries (field ++ "_" ++ "year")
        (Text.numberOfAscii digits))).mpr clean
  have tagClean :=
    (Result.cleanFor_extend_iff
      (areQuiet_tagEntries (field ++ "_" ++ "tag") tag)).mpr yearClean
  unfold yearAndTag
  rw [passes_partKey_bind_iff, passes_once_bind_iff passesYear]
  refine (and_congr_right fun _ => ?_).trans and_assoc.symm
  simp only [passes_hasErrors_bind_iff (yearClean _ (.part ..)),
    Bool.false_eq_true, ↓reduceIte, passes_partKey_bind_iff,
    passes_once_bind_iff fun _ =>
      passes_semesterTag_iff parts.isCapital (yearClean _ (.part ..)),
    passes_hasErrors_bind_iff (tagClean _ (.part ..)), passes_pure_iff]
  constructor
  · rintro ⟨_, ⟨isTag, _, ⟨rfl, rfl⟩, rfl⟩, rfl⟩
    exact ⟨isTag, rfl, by rw [List.append_nil]⟩
  · rintro ⟨isTag, rfl, rfl⟩
    exact ⟨_, ⟨isTag, [], ⟨rfl, rfl⟩, rfl⟩, by rw [List.append_nil]⟩

/-- A year and a tag pass exactly if the year is within bounds and the tag is one. -/
theorem passes_yearAndTag_iff
    {characters digits number : List Char}
    {tag : Char}
    {isValid : Bool}
    (isLatest : environment.lastYear = .ok (.int latest))
    (parts : HasParts characters digits tag number)
    (clean : result.CleanFor field) :
    (yearAndTag environment digits tag (.text field) (.int minimal)
          .null).Passes result isValid entries ↔
      ((max earliestYear minimal ≤ Text.numberOfAscii digits ∧
            Text.numberOfAscii digits ≤ latest) ∧
          tag ∈ ['A', 'B']) ∧
        isValid = true ∧
          entries =
            integerEntries (field ++ "_" ++ "year")
                (Text.numberOfAscii digits) ++
              tagEntries (field ++ "_" ++ "tag") tag :=
  passes_yearAndTag_iff_of_year
    (fun _ =>
      passes_year_of_digits_iff isLatest parts.yearDigits parts.yearSize
        (clean _ (.part ..)))
    parts clean

end Check

/-- A semester with a year of four digits has the parts of one. -/
theorem Semester.hasParts
    {semester : Semester}
    (long : 1000 ≤ semester.year)
    (short : semester.year ≤ 9999) :
    Check.HasParts semester.characters
      (Number.naturalDigits semester.year) semester.tag [] where
  split := rfl
  yearSize := by
    have most :
        (Number.naturalDigits semester.year).length ≤ 4 :=
      (Nat.length_toDigits_le_iff (by decide) (by decide)).mpr (by omega)
    have least : ¬(Number.naturalDigits semester.year).length ≤ 3 := by
      unfold Number.naturalDigits
      rw [Nat.length_toDigits_le_iff (by decide) (by decide)]
      omega
    omega
  yearDigits _ member := Text.isAsciiDigit_of_mem_naturalDigits member
  isCapital := Check.isCapital_of_mem_tags semester.tag_mem
  numberDigits := List.forall_mem_nil _

/-- Four digits without a zero in front and a tag are those of a semester. -/
theorem Semester.exists_of_hasParts
    {characters digits : List Char}
    {tag : Char}
    (parts : Check.HasParts characters digits tag [])
    (isTag : tag ∈ ['A', 'B'])
    (long : 1000 ≤ Text.numberOfAscii digits) :
    ∃ semester : Semester,
      characters = semester.characters ∧
        semester.year = Text.numberOfAscii digits ∧ semester.tag = tag := by
  have isYear :=
    Text.naturalDigits_numberOfAscii parts.yearDigits parts.yearSize long
  simp only [List.mem_cons, List.not_mem_nil, or_false] at isTag
  rcases isTag with rfl | rfl
  · refine ⟨.a (Text.numberOfAscii digits), ?_, rfl, rfl⟩
    rw [parts.split, Semester.characters, Semester.year, isYear]
    rfl
  · refine ⟨.b (Text.numberOfAscii digits), ?_, rfl, rfl⟩
    rw [parts.split, Semester.characters, Semester.year, isYear]
    rfl

/--
A value is a semester in a year within bounds if its text, without the blanks
around it and in upper case, is that of the semester.
-/
structure Value.IsSemester
    (submitted : Value)
    (earliest latest : Int)
    (semester : Semester) : Prop where
  typed :
    ∃ text,
      submitted.asText = .ok text ∧
        Check.upperText text = semester.characters
  years : earliest ≤ semester.year ∧ semester.year ≤ latest
  short : semester.year ≤ 9999

namespace Check

variable
  {result : Result}
  {field : String}
  {entries : List Entry}
  {environment : Environment}
  {minimal latest : Int}

/-- The entries that store a semester: its year, its tag, and its text. -/
def semesterEntries
    (field : String)
    (semester : Semester) : List Entry :=
  integerEntries (field ++ "_" ++ "year") semester.year ++
      tagEntries (field ++ "_" ++ "tag") semester.tag ++
    [.value (.text field) (.text semester.text)]

/-- A value passes exactly if it is a semester in a year within bounds. -/
theorem passes_semester_iff
    (isMinimal : environment.settings.minimalYear = .int minimal)
    (isLatest : environment.lastYear = .ok (.int latest))
    (clean : result.CleanFor field)
    (submitted : Value) :
    (Check.semester environment submitted (.text field) .null .null).Passes
        result () entries ↔
      ∃ semester,
        submitted.IsSemester (max earliestYear minimal) latest semester ∧
          entries = semesterEntries field semester := by
  have early : 1900 ≤ max earliestYear minimal :=
    Int.le_max_left earliestYear minimal
  unfold Check.semester
  simp only [Value.orDefault, isMinimal]
  rw [passes_lift_bind_iff]
  constructor
  · rintro ⟨text, isText, passes⟩
    -- The text has no parts, the parts alone, or something behind them.
    rcases found : yearAndTag? (upperText text) with
      _ | ⟨digits, tag, _ | ⟨other, behind⟩⟩
    · rw [found] at passes
      exact (not_passes_reject passes).elim
    · have parts : HasParts (upperText text) digits tag [] :=
        hasParts_iff.mpr ⟨found, rfl⟩
      rw [found] at passes
      dsimp only at passes
      rw [passes_known_bind_iff fun _ _ =>
        passes_yearAndTag_iff isLatest parts clean, if_pos rfl] at passes
      obtain ⟨⟨years, isTag⟩, later, stores, rfl⟩ := passes
      cases passes_setValue_iff.mp stores
      obtain ⟨semester, isSemester, isYear, rfl⟩ :=
        Semester.exists_of_hasParts parts isTag (by omega)
      have bounded := Text.numberOfAscii_lt parts.yearDigits
      rw [parts.yearSize] at bounded
      rw [← isYear] at years bounded
      refine ⟨semester, ⟨⟨text, isText, isSemester⟩, years, by omega⟩, ?_⟩
      rw [semesterEntries, isYear, isSemester]
      rfl
    · rw [found] at passes
      exact (not_passes_reject passes).elim
  · rintro ⟨semester, ⟨⟨text, isText, isSemester⟩, years, short⟩, rfl⟩
    have parts := Semester.hasParts (by omega) short
    refine ⟨text, isText, ?_⟩
    rw [isSemester, (hasParts_iff.mp parts).1]
    dsimp only
    rw [passes_known_bind_iff fun _ _ =>
      passes_yearAndTag_iff isLatest parts clean, if_pos rfl]
    rw [Text.numberOfAscii_naturalDigits]
    exact ⟨⟨years, semester.tag_mem⟩, _, passes_setValue_iff.mpr rfl, rfl⟩

/-! ## Dates that pass -/

/-- The value of a date: the moment that it begins, and its components. -/
def dateValue
    (date : Date) : Value :=
  momentValue ⟨date, 0, 0, 0⟩ date.componentsValue

/-- The entries that store a date and a semester, each as a part of a field. -/
def partEntries
    (field : String)
    (date : Date)
    (semester : Semester) : List Entry :=
  dateEntries (field ++ "_" ++ "date") date ++
    semesterEntries (field ++ "_" ++ "semester") semester

/-- The date and the semester that were stored are found again. -/
theorem value?_partEntries
    (result : Result)
    (field : String)
    (date : Date)
    (semester : Semester) :
    let stored := result.extend (partEntries field date semester)
    stored.value? (.text (field ++ "_" ++ "date" ++ "_" ++ "components")) =
        some date.componentsValue ∧
      stored.value? (.text (field ++ "_" ++ "semester")) =
        some (.text semester.text) ∧
      stored.value? (.text (field ++ "_" ++ "date")) =
        some (dateValue date) := by
  simp [partEntries, dateEntries, semesterEntries, componentEntries,
    momentEntries, integerEntries, tagEntries, dateValue,
    Result.value?_extend, Entry.valueAt?, String.append_assoc]

/-- A check goes on where values were stored under two keys. -/
theorem passes_haveValues_bind_iff
    {answer : Type}
    {value : answer}
    {continuation : Bool → Check answer}
    {first second : String}
    {held heldToo : Value}
    (holds : result.value? (.text first) = some held)
    (holdsToo : result.value? (.text second) = some heldToo) :
    (haveValues (.text first) (.text second) >>= continuation).Passes result
        value entries ↔
      (continuation true).Passes result value entries := by
  have isHeld : result.hasValue (.text first) = true := by
    rw [Result.hasValue, holds, Option.isSome_some]
  have isHeldToo : result.hasValue (.text second) = true := by
    rw [Result.hasValue, holdsToo, Option.isSome_some]
  have both
      (isBoth : Bool)
      (stored : List Entry) :
      (haveValues (.text first) (.text second)).Passes result isBoth
          stored ↔
        True ∧ isBoth = true ∧ stored = [] := by
    unfold haveValues hasValue
    rw [passes_look_bind_iff, isHeld, if_pos rfl]
    constructor
    · rintro ⟨answers, _⟩
      cases answers
      exact ⟨trivial, isHeldToo, rfl⟩
    · rintro ⟨_, rfl, rfl⟩
      exact ⟨by rw [← isHeldToo]; rfl, List.forall_mem_nil _⟩
  rw [passes_silent_bind_iff both, true_and]

/-- The last part of the check: the date and the semester are compared. -/
def compareSemester
    (field : String) : Check Unit := do
  let componentsKey := Value.text (field ++ "_" ++ "date" ++ "_" ++ "components")
  let semesterKey := Value.text (field ++ "_" ++ "semester")
  if ← haveValues componentsKey semesterKey then
    let components ← Check.value componentsKey
    let expected ← Check.value semesterKey
    let year ← components.atKey "year"
    let month ← components.atKey "month"
    let day ← components.atKey "day"
    if Value.text (← semesterOf year month day) == expected then
      setValue (.text field)
        (← Check.value (.text (field ++ "_" ++ "date")))
    else
      reject (.text field)
        ("Date must fall within " ++ (← expected.shown) ++ " semester.")

/-- The parts of the check of a date in a semester. -/
theorem dateInSemester_eq
    (environment : Environment)
    (inputs : DateInputs)
    (submitted : Value)
    (field : String) :
    dateInSemester environment inputs.year inputs.month inputs.day submitted
        (.text field) =
      (do
        fullDate environment inputs.year inputs.month inputs.day
          (.text (field ++ "_" ++ "date"))
        Check.semester environment submitted
          (.text (field ++ "_" ++ "semester")) .null .null
        compareSemester field) := by
  unfold dateInSemester
  simp only [partKey_text, lift_ok_bind]
  rfl

/-- The comparison passes exactly if the semester is that of the date. -/
theorem passes_compareSemester_iff
    {date : Date}
    (actual : date.isActual = true)
    {semester : Semester} :
    (compareSemester field).Passes
        (result.extend (partEntries field date semester)) () entries ↔
      date.semester = semester ∧
        entries = [.value (.text field) (dateValue date)] := by
  obtain ⟨components, isSemester, isDate⟩ :=
    value?_partEntries result field date semester
  have isYear :
      date.componentsValue.atKey "year" = .ok (.int date.year) :=
    rfl
  have isMonth :
      date.componentsValue.atKey "month" = .ok (.int date.month) :=
    rfl
  have isDay :
      date.componentsValue.atKey "day" = .ok (.int date.day) :=
    rfl
  have sameText :
      (Value.text date.semester.text == Value.text semester.text) =
        decide (date.semester = semester) := by
    rw [Value.text_beq_text, Bool.eq_iff_iff, beq_iff_eq, decide_eq_true_eq,
      Semester.text_injective.eq_iff]
  unfold compareSemester
  dsimp only
  rw [passes_haveValues_bind_iff components isSemester, if_pos rfl,
    passes_value_bind_iff, passes_value_bind_iff, Result.value, Result.value,
    components, isSemester, Option.getD_some, Option.getD_some, isYear,
    lift_ok_bind, isMonth, lift_ok_bind, isDay, lift_ok_bind,
    semesterOf_date actual, lift_ok_bind, sameText]
  by_cases same : date.semester = semester
  · rw [if_pos (decide_eq_true same), passes_value_bind_iff, Result.value,
      isDate, Option.getD_some, passes_setValue_iff, and_iff_right same]
  · rw [if_neg (by simpa using same), passes_lift_bind_iff]
    refine iff_of_false ?_ fun both => same both.1
    rintro ⟨_, _, rejects⟩
    exact not_passes_reject rejects

/-- A date in a semester passes exactly if both do and it is that of the date. -/
theorem passes_dateInSemester_iff
    (isMinimal : environment.settings.minimalYear = .int minimal)
    (isLatest : environment.lastYear = .ok (.int latest))
    (clean : result.CleanFor field)
    (inputs : DateInputs)
    (submitted : Value) :
    (dateInSemester environment inputs.year inputs.month inputs.day submitted
        (.text field)).Passes result () entries ↔
      ∃ date,
        (inputs.date? (max earliestYear minimal) latest = some date ∧
            submitted.IsSemester (max earliestYear minimal) latest
              date.semester) ∧
          entries =
            partEntries field date date.semester ++
              [.value (.text field) (dateValue date)] := by
  rw [dateInSemester_eq, passes_storing_bind_iff fun _ =>
    passes_fullDate_iff isMinimal isLatest clean.of_part inputs]
  refine exists_congr fun date => ?_
  refine (and_congr_right fun isDate => ?_).trans and_assoc.symm
  have actual := (DateInputs.date?_eq_some_iff.mp isDate).2.1
  have dateClean :=
    (Result.cleanFor_extend_iff
      (areQuiet_dateEntries (field ++ "_" ++ "date") date)).mpr clean
  have stored (semester : Semester) :
      (result.extend (dateEntries (field ++ "_" ++ "date") date)).extend
          (semesterEntries (field ++ "_" ++ "semester") semester) =
        result.extend (partEntries field date semester) :=
    Result.extend_extend ..
  simp only [passes_storing_bind_iff fun _ =>
      passes_semester_iff isMinimal isLatest dateClean.of_part submitted,
    stored, passes_compareSemester_iff actual]
  constructor
  · rintro ⟨_, ⟨_, isSemester, _, ⟨rfl, rfl⟩, rfl⟩, rfl⟩
    exact ⟨isSemester, (List.append_assoc ..).symm⟩
  · rintro ⟨isSemester, rfl⟩
    exact ⟨_, ⟨_, isSemester, _, ⟨rfl, rfl⟩, rfl⟩, List.append_assoc ..⟩

/-! ## Semesters and dates that are accepted -/

variable {value : Value}

/-- A date is accepted exactly if its components make one. -/
theorem accepts_fullDate_iff
    (isMinimal : environment.settings.minimalYear = .int minimal)
    (isLatest : environment.lastYear = .ok (.int latest))
    (clean : result.CleanFor field)
    (inputs : DateInputs) :
    (fullDate environment inputs.year inputs.month inputs.day
        (.text field)).Accepts result field value ↔
      ∃ date,
        inputs.date? (max earliestYear minimal) latest = some date ∧
          value = dateValue date :=
  accepts_iff (fun _ => passes_fullDate_iff isMinimal isLatest clean inputs)
    fun date => by
      simp [dateEntries, componentEntries, momentEntries, integerEntries,
        dateValue, Result.value?_extend, Entry.valueAt?]

/-- A semester is accepted exactly if its year is within bounds. -/
theorem accepts_semester_iff
    (isMinimal : environment.settings.minimalYear = .int minimal)
    (isLatest : environment.lastYear = .ok (.int latest))
    (clean : result.CleanFor field)
    (submitted : Value) :
    (Check.semester environment submitted (.text field) .null .null).Accepts
        result field value ↔
      ∃ semester,
        submitted.IsSemester (max earliestYear minimal) latest semester ∧
          value = .text semester.text :=
  accepts_iff
    (fun _ => passes_semester_iff isMinimal isLatest clean submitted)
    fun semester => by
      simp [semesterEntries, Result.value?_extend, Entry.valueAt?]

/-- A date in a semester is accepted exactly if the semester is that of the date. -/
theorem accepts_dateInSemester_iff
    (isMinimal : environment.settings.minimalYear = .int minimal)
    (isLatest : environment.lastYear = .ok (.int latest))
    (clean : result.CleanFor field)
    (inputs : DateInputs)
    (submitted : Value) :
    (dateInSemester environment inputs.year inputs.month inputs.day submitted
        (.text field)).Accepts result field value ↔
      ∃ date,
        (inputs.date? (max earliestYear minimal) latest = some date ∧
            submitted.IsSemester (max earliestYear minimal) latest
              date.semester) ∧
          value = dateValue date :=
  accepts_iff
    (fun _ =>
      passes_dateInSemester_iff isMinimal isLatest clean inputs submitted)
    fun date => by
      simp [Result.value?_extend, Entry.valueAt?]

/--
A date in a semester is accepted exactly if the date is, with the same value, the
semester is, and the date lies between the first and the last day of the semester.
-/
theorem accepts_dateInSemester_iff_liesIn
    {future : Int}
    (isMinimal : environment.settings.minimalYear = .int minimal)
    (isFuture : environment.settings.futureYears = .int future)
    (blank : result.IsBlankFor field)
    (inputs : DateInputs)
    (submitted value : Value) :
    (dateInSemester environment inputs.year inputs.month inputs.day submitted
        (.text field)).Accepts result field value ↔
      (fullDate environment inputs.year inputs.month inputs.day
            (.text field)).Accepts result field value ∧
        ∃ semester : Semester,
          (Check.semester environment submitted (.text field) .null
                .null).Accepts result field (.text semester.text) ∧
            ∃ date, inputs.Denote date ∧ date.LiesIn semester := by
  have isLatest := Environment.lastYear_eq isFuture
  have clean := blank.cleanFor
  rw [accepts_dateInSemester_iff isMinimal isLatest clean,
    accepts_fullDate_iff isMinimal isLatest clean]
  simp only [accepts_semester_iff isMinimal isLatest clean, Value.text.injEq,
    Semester.text_injective.eq_iff, exists_eq_right', and_assoc]
  constructor
  · rintro ⟨date, isDate, isSemester, isValue⟩
    obtain ⟨denotes, actual, _⟩ := DateInputs.date?_eq_some_iff.mp isDate
    exact ⟨⟨date, isDate, isValue⟩, date.semester, isSemester, date, denotes,
      (Date.liesIn_iff actual).mpr rfl⟩
  · rintro ⟨⟨date, isDate, isValue⟩, semester, isSemester, other, otherDenotes,
      lies⟩
    obtain ⟨denotes, actual, _⟩ := DateInputs.date?_eq_some_iff.mp isDate
    obtain rfl := denotes.unique otherDenotes
    rw [← (Date.liesIn_iff actual).mp lies] at isSemester
    exact ⟨date, isDate, isSemester, isValue⟩

/-! ## The last day of a semester -/

/-- The components of a date in January, which are written in different ways. -/
def januaryInputs : DateInputs :=
  ⟨.text "2026", .int 1, .text " 31 "⟩

/-- The last day of a semester. -/
def january : Date :=
  ⟨2026, 1, 31⟩

/-- The day after, with the settings that the program has by default. -/
def dayAfter : Environment :=
  .on ⟨2026, 2, 1⟩

/-- A result with entries under other keys. -/
def elsewhere : Result :=
  ⟨[.error (.text "duet") (.text "Unknown."), .value (.text "name") .null]⟩

/-- Other keys do not belong to the field. -/
theorem isBlankFor_elsewhere :
    elsewhere.IsBlankFor "due" := by
  rintro _ ⟨characters, rfl, belongs⟩
  have other
      (key : String)
      (isOther :
        key ≠ "due" ∧ Report.startsWith key ("due" ++ "_") = false) :
      (Value.text key == Value.text characters) = false := by
    rw [Value.text_beq_text, beq_eq_false_iff_ne]
    rintro rfl
    rcases belongs with same | derived
    · exact isOther.1 same
    · rw [isOther.2] at derived
      cases derived
  simp [elsewhere, Result.value?, Result.errorsAt, Entry.valueAt?,
    Entry.messageAt?, other "duet" (by decide), other "name" (by decide)]

/-- The components make the date. -/
theorem date?_january :
    januaryInputs.date? (max earliestYear 2000) (2026 + 5) = some january :=
  DateInputs.date?_eq_some_iff.mpr
    ⟨⟨by decide +kernel, by decide +kernel, by decide +kernel⟩, by decide,
      by decide⟩

/-- The last day of January is accepted in the semester before, not in the next. -/
theorem accepts_dateInSemester_iff_liesIn_january :
    elsewhere.IsBlankFor "due" ∧
      (dateInSemester dayAfter januaryInputs.year januaryInputs.month
          januaryInputs.day (.text " 2025b ") (.text "due")).Accepts
        elsewhere "due" (dateValue january) ∧
      ∀ value,
        ¬(dateInSemester dayAfter januaryInputs.year januaryInputs.month
            januaryInputs.day (.text "2026A") (.text "due")).Accepts
          elsewhere "due" value := by
  have blank := isBlankFor_elsewhere
  have clean := blank.cleanFor
  have isLatest : dayAfter.lastYear = .ok (.int (2026 + 5)) := rfl
  have isDate :
      (fullDate dayAfter januaryInputs.year januaryInputs.month
          januaryInputs.day (.text "due")).Accepts elsewhere "due"
        (dateValue january) :=
    (accepts_fullDate_iff rfl isLatest clean januaryInputs).mpr
      ⟨january, date?_january, rfl⟩
  have isSemester :
      (Check.semester dayAfter (.text " 2025b ") (.text "due") .null
          .null).Accepts elsewhere "due" (.text (Semester.b 2025).text) :=
    (accepts_semester_iff rfl isLatest clean _).mpr
      ⟨.b 2025,
        { typed := ⟨_, rfl, by decide +kernel⟩
          years := by decide
          short := by decide },
        rfl⟩
  have denotes := (DateInputs.date?_eq_some_iff.mp date?_january).1
  refine ⟨blank, ?_, fun value accepts => ?_⟩
  · exact
      (accepts_dateInSemester_iff_liesIn rfl rfl blank januaryInputs _ _).mpr
        ⟨isDate, .b 2025, isSemester, january, denotes, by decide, by decide⟩
  · obtain ⟨_, semester, isOther, date, otherDenotes, lies⟩ :=
      (accepts_dateInSemester_iff_liesIn rfl rfl blank januaryInputs _ _).mp
        accepts
    obtain rfl := denotes.unique otherDenotes
    obtain ⟨other, ⟨⟨_, isText, isOther⟩, _⟩, same⟩ :=
      (accepts_semester_iff rfl isLatest clean _).mp isOther
    cases isText
    obtain rfl := Semester.text_injective (Value.text.inj same)
    rw [← (Date.liesIn_iff (by decide)).mp lies] at isOther
    exact absurd isOther (by decide +kernel)

end Check

end FormCheck
