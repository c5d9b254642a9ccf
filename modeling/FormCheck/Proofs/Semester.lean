import FormCheck.Proofs.Calendar
import FormCheck.Proofs.Digits

namespace FormCheck

/-!
# Semesters as intervals of dates

Semester A of a year runs from February to July, semester B from August to the
January after. So each date lies in one semester, and that is the one whose text
is computed from the components of the date, with the special case of January.
-/

/-- The two semesters of a year. -/
inductive Semester where
  | a (year : Nat)
  | b (year : Nat)
deriving Repr, DecidableEq

namespace Semester

/-- The year that names a semester. -/
def year : Semester → Nat
  | .a year => year
  | .b year => year

/-- The letter of a semester. -/
def tag : Semester → Char
  | .a _ => 'A'
  | .b _ => 'B'

/-- The letter of a semester is one of two. -/
theorem tag_mem
    (semester : Semester) :
    semester.tag ∈ ['A', 'B'] := by
  cases semester with
  | a year =>
      exact .head _
  | b year =>
      exact .tail _ (.head _)

/-- The first day of a semester. -/
def first : Semester → Date
  | .a year => ⟨year, 2, 1⟩
  | .b year => ⟨year, 8, 1⟩

/-- The last day of a semester. -/
def last : Semester → Date
  | .a year => ⟨year, 7, 31⟩
  | .b year => ⟨year + 1, 1, 31⟩

/-- The characters of a semester: the digits of its year and its letter. -/
def characters
    (semester : Semester) : List Char :=
  Number.naturalDigits semester.year ++ [semester.tag]

/-- The text of a semester, such as `2025A`. -/
def text
    (semester : Semester) : String :=
  String.ofList semester.characters

example : (Semester.a 2025).text = "2025A" := by
  decide

/-- Semesters of the same year and with the same letter are the same. -/
theorem eq_of_tag
    {semester other : Semester}
    (sameYear : semester.year = other.year)
    (sameTag : semester.tag = other.tag) :
    semester = other := by
  cases semester <;> cases other <;> simp_all [year, tag]

/-- Semesters with the same text are the same. -/
theorem text_injective :
    Function.Injective text := by
  intro semester other same
  rw [text, text, String.ofList_inj, characters, characters] at same
  obtain ⟨sameDigits, sameTag⟩ := List.append_inj' same rfl
  refine eq_of_tag ?_ (List.singleton_inj.mp sameTag)
  rw [← Text.numberOfAscii_naturalDigits semester.year, sameDigits,
    Text.numberOfAscii_naturalDigits]

end Semester

namespace Date

/-- A date lies in a semester if it is neither before nor after it. -/
def LiesIn
    (date : Date)
    (semester : Semester) : Prop :=
  date.before semester.first = false ∧ semester.last.before date = false

/-- The semester of a date; January belongs to the year before. -/
def semester
    (date : Date) : Semester :=
  if date.month = 1 then
    .b (date.year - 1)
  else if date.month < 8 then
    .a date.year
  else
    .b date.year

/-- A date lies in a semester exactly if that is the semester of the date. -/
theorem liesIn_iff
    {date : Date}
    (actual : date.isActual = true)
    {semester : Semester} :
    date.LiesIn semester ↔ date.semester = semester := by
  obtain ⟨⟨positive, _⟩, ⟨firstMonth, lastMonth⟩, firstDay, withinMonth⟩ :=
    isActual_iff.mp actual
  have short := Calendar.daysInMonth_le date.year date.month
  unfold LiesIn Date.semester
  rw [← Bool.not_eq_true, ← Bool.not_eq_true, before_iff, before_iff]
  cases semester <;> split_ifs <;>
    simp [Semester.first, Semester.last] <;> omega

end Date

/-- The text of a year and a letter is that of a semester. -/
theorem Semester.decimalText_append
    (semester : Semester) :
    Number.decimalText semester.year ++ String.ofList [semester.tag] =
      semester.text := by
  rw [Number.decimalText, ← String.ofList_append]
  rfl

/-- Integers are equal as values exactly if they are equal. -/
theorem Value.int_beq_int
    (left right : Int) :
    (Value.int left == Value.int right) = decide (left = right) := by
  simp [BEq.beq, same, number?, Numeric.same, Numeric.compare?]

/-- The text that is computed for a date is that of its semester. -/
theorem Check.semesterOf_date
    {date : Date}
    (actual : date.isActual = true) :
    semesterOf (.int date.year) (.int date.month) (.int date.day) =
      .ok date.semester.text := by
  obtain ⟨⟨positive, inCalendar⟩, _⟩ := Date.isActual_iff.mp actual
  unfold Calendar.lastYear at inCalendar
  have yearText :
      (Value.int date.year).shown = .ok (Number.decimalText date.year) :=
    Value.shown_int (Number.isWritable_of_lt (by omega))
  have yearBefore :
      predecessor (.int date.year) = .ok (.int (date.year - 1 : Nat)) := by
    rw [Int.natCast_pred_of_pos positive]
    rfl
  have yearBeforeText :
      (Value.int (date.year - 1 : Nat)).shown =
        .ok (Number.decimalText (date.year - 1 : Nat)) :=
    Value.shown_int (Number.isWritable_of_lt (by omega))
  rw [← Semester.decimalText_append]
  unfold semesterOf Date.semester
  rw [Value.int_beq_int, Value.less_int]
  by_cases january : date.month = 1
  · rw [if_pos (by simp [january]), if_pos january, yearBefore]
    simp only [bind, Except.bind, yearBeforeText]
    rfl
  · rw [if_neg (by simpa using january), if_neg january]
    by_cases early : date.month < 8
    · rw [if_pos early]
      simp only [bind, Except.bind, yearText]
      rw [if_pos (by simpa using early)]
      rfl
    · rw [if_neg early]
      simp only [bind, Except.bind, yearText]
      rw [if_neg (by simpa using early)]
      rfl

end FormCheck
