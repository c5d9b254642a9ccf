import FormCheck.Proofs.SemesterDates

namespace FormCheck

/-!
# The semester of a date

A date that is accepted is accepted in exactly one semester, that of the date,
unless it lies in the first month that is accepted at all. That January belongs
to the semester of the year before, and the year of a semester is subject to the
same bounds as that of a date.
-/

/-- A text has the form of a semester if it is four digits and a capital letter. -/
def Text.HasSemesterForm
    (code : String) : Prop :=
  ∃ digits letter, Check.HasParts code.toList digits letter []

/-- There are no blanks around a text of that form. -/
theorem Text.HasSemesterForm.strip_eq
    {code : String}
    (hasForm : HasSemesterForm code) :
    strip code = code := by
  obtain ⟨digits, letter, parts⟩ := hasForm
  rw [strip, stripped_eq_self parts.visible, String.ofList_toList]

namespace Semester

/-- The text of a semester with a year of four digits has the form of one. -/
theorem hasSemesterForm_text
    {semester : Semester}
    (long : 1000 ≤ semester.year)
    (short : semester.year ≤ 9999) :
    Text.HasSemesterForm semester.text := by
  refine ⟨Number.naturalDigits semester.year, semester.tag, ?_⟩
  rw [text, String.toList_ofList]
  exact hasParts long short

/-- A text of that form is read as a semester exactly if it is its text. -/
theorem upperText_eq_iff
    {code : String}
    (hasForm : Text.HasSemesterForm code)
    {semester : Semester} :
    Check.upperText code = semester.characters ↔ code = semester.text := by
  have isForm :
      code = semester.text ↔
        code.toList = Number.naturalDigits semester.year ++ [semester.tag] := by
    rw [text, ← String.toList_inj, String.toList_ofList, characters]
  rw [characters, Check.upperText_eq_iff
      (fun _ => Text.isAsciiDigit_of_mem_naturalDigits)
      (List.forall_mem_nil _) semester.tag_mem,
    hasForm.strip_eq, isForm]
  obtain ⟨digits, letter, parts⟩ := hasForm
  constructor
  · rintro ⟨typed, isUpper, split⟩
    have same := split.symm.trans parts.split
    obtain rfl := List.singleton_inj.mp (List.append_inj' same rfl).2
    rw [Text.toUpper_of_isCapital parts.isCapital] at isUpper
    rw [split, isUpper]
  · intro split
    have isCapital := Check.isCapital_of_mem_tags semester.tag_mem
    exact ⟨semester.tag, Text.toUpper_of_isCapital isCapital, split⟩

end Semester

namespace Date

/-- The semester of a date has no later year. -/
theorem year_semester_le
    (date : Date) :
    date.semester.year ≤ date.year := by
  unfold semester
  split_ifs <;> simp only [Semester.year] <;> omega

/-- Only January of the earliest year belongs to a semester of an earlier one. -/
theorem le_year_semester_iff
    {date : Date}
    (positive : 1 ≤ date.year)
    {earliest : Int}
    (inYears : earliest ≤ date.year) :
    earliest ≤ date.semester.year ↔
      ¬((date.year : Int) = earliest ∧ date.month = 1) := by
  unfold semester
  split_ifs <;> simp only [Semester.year] <;> omega

end Date

namespace Check

/-- Whether a text has the form of a semester and a date is accepted in it. -/
def AcceptsIn
    (environment : Environment)
    (inputs : DateInputs)
    (field code : String) : Prop :=
  Text.HasSemesterForm code ∧
    ∃ value,
      (dateInSemester environment inputs.year inputs.month inputs.day
          (.text code) (.text field)).Accepts .empty field value

variable
  {environment : Environment}
  {inputs : DateInputs}
  {date : Date}
  {minimal latest : Int}

/-- A date is accepted in its semester alone, if the year of that is no earlier. -/
theorem acceptsIn_iff
    (isMinimal : environment.settings.minimalYear = .int minimal)
    (isLatest : environment.lastYear = .ok (.int latest))
    (isDate : inputs.date? (max earliestYear minimal) latest = some date)
    (field code : String) :
    AcceptsIn environment inputs field code ↔
      ¬((date.year : Int) = max earliestYear minimal ∧ date.month = 1) ∧
        code = date.semester.text := by
  obtain ⟨_, actual, fromYear, toYear⟩ :=
    DateInputs.date?_eq_some_iff.mp isDate
  obtain ⟨positive, inCalendar⟩ := (Date.isActual_iff.mp actual).1
  have clean := (Result.isBlankFor_empty field).cleanFor
  have isLater := Date.le_year_semester_iff positive fromYear
  unfold AcceptsIn
  simp only [accepts_dateInSemester_iff isMinimal isLatest clean]
  constructor
  · rintro ⟨hasForm, _, other, ⟨isOther, ⟨_, isText, isRead⟩, years, _⟩, _⟩
    cases isText
    cases isDate.symm.trans isOther
    exact ⟨isLater.mp years.1, (Semester.upperText_eq_iff hasForm).mp isRead⟩
  · rintro ⟨notFirst, rfl⟩
    have early : 1900 ≤ max earliestYear minimal :=
      Int.le_max_left earliestYear minimal
    have fromYearToo := isLater.mpr notFirst
    have notLater := date.year_semester_le
    have short : date.semester.year ≤ 9999 :=
      notLater.trans inCalendar
    have hasForm := Semester.hasSemesterForm_text (by omega) short
    exact ⟨hasForm, dateValue date, date,
      ⟨isDate,
        { typed := ⟨_, rfl, (Semester.upperText_eq_iff hasForm).mpr rfl⟩
          years := ⟨fromYearToo, by omega⟩
          short := short }⟩,
      rfl⟩

/--
A date that is accepted by default is accepted in exactly one semester, unless it
lies in January of the first year that is accepted: then it is in none.
-/
theorem existsUnique_acceptsIn
    {today : Date}
    {memory : Memory}
    {field : String}
    {value : Value}
    (accepts :
      (fullDate ⟨{}, today, memory⟩ inputs.year inputs.month inputs.day
          (.text field)).Accepts .empty field value) :
    ∃ date,
      inputs.Denote date ∧
        if date.year = 2000 ∧ date.month = 1 then
          ¬∃ code, AcceptsIn ⟨{}, today, memory⟩ inputs field code
        else
          ∃! code, AcceptsIn ⟨{}, today, memory⟩ inputs field code := by
  have clean := (Result.isBlankFor_empty field).cleanFor
  obtain ⟨date, isDate, _⟩ :=
    (accepts_fullDate_iff rfl rfl clean inputs).mp accepts
  have isEarliest : max earliestYear 2000 = ((2000 : Nat) : Int) := rfl
  have isIn
      (code : String) :
      AcceptsIn ⟨{}, today, memory⟩ inputs field code ↔
        ¬(date.year = 2000 ∧ date.month = 1) ∧
          code = date.semester.text := by
    rw [acceptsIn_iff rfl rfl isDate, isEarliest, Nat.cast_inj]
  refine ⟨date, (DateInputs.date?_eq_some_iff.mp isDate).1, ?_⟩
  simp only [isIn]
  split_ifs with isFirst
  · rintro ⟨_, notFirst, _⟩
    exact notFirst isFirst
  · exact ⟨date.semester.text, ⟨isFirst, rfl⟩, fun _ isOther => isOther.2⟩

/-- The last day of January is accepted in one semester. -/
theorem existsUnique_acceptsIn_january :
    (fullDate dayAfter januaryInputs.year januaryInputs.month
        januaryInputs.day (.text "due")).Accepts .empty "due"
      (dateValue january) ∧
      ∃! code, AcceptsIn dayAfter januaryInputs "due" code := by
  have clean := (Result.isBlankFor_empty "due").cleanFor
  have accepts :
      (fullDate dayAfter januaryInputs.year januaryInputs.month
          januaryInputs.day (.text "due")).Accepts .empty "due"
        (dateValue january) :=
    (accepts_fullDate_iff rfl rfl clean januaryInputs).mpr
      ⟨january, date?_january, rfl⟩
  refine ⟨accepts, ?_⟩
  obtain ⟨date, denotes, inOne⟩ := existsUnique_acceptsIn accepts
  obtain rfl :=
    (DateInputs.date?_eq_some_iff.mp date?_january).1.unique denotes
  rwa [if_neg (by decide)] at inOne

/-- The components of a date in the first month that is accepted. -/
def firstJanuary : DateInputs :=
  ⟨.text "2000", .text "1", .text "15"⟩

/-- The components make a date, in the year of the settings. -/
theorem date?_firstJanuary :
    firstJanuary.date? (max earliestYear 2000) (2025 + 5) =
      some ⟨2000, 1, 15⟩ :=
  DateInputs.date?_eq_some_iff.mpr
    ⟨⟨by decide +kernel, by decide +kernel, by decide +kernel⟩, by decide,
      by decide⟩

/-- Not each date that is accepted is accepted in one semester. -/
theorem not_forall_existsUnique_acceptsIn :
    ¬∀ (today : Date) (memory : Memory) (inputs : DateInputs)
        (field : String) (value : Value),
        (fullDate ⟨{}, today, memory⟩ inputs.year inputs.month inputs.day
            (.text field)).Accepts .empty field value →
          ∃! code, AcceptsIn ⟨{}, today, memory⟩ inputs field code := by
  intro all
  have clean := (Result.isBlankFor_empty "d").cleanFor
  have isLatest :
      Environment.lastYear (.on ⟨2025, 6, 15⟩) = .ok (.int (2025 + 5)) :=
    rfl
  have accepts :
      (fullDate (.on ⟨2025, 6, 15⟩) firstJanuary.year firstJanuary.month
          firstJanuary.day (.text "d")).Accepts .empty "d"
        (dateValue ⟨2000, 1, 15⟩) :=
    (accepts_fullDate_iff rfl isLatest clean firstJanuary).mpr
      ⟨_, date?_firstJanuary, rfl⟩
  obtain ⟨code, isIn, _⟩ := all _ _ _ _ _ accepts
  exact ((acceptsIn_iff rfl isLatest date?_firstJanuary "d" code).mp isIn).1
    ⟨rfl, rfl⟩

end Check

end FormCheck
