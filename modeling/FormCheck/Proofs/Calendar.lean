import FormCheck.Proofs.Check.Decision.Date
import Mathlib.Order.Monotone.Basic

namespace FormCheck

/-!
# The order of dates

Dates that exist are numbered in the order in which they follow each other, so
that a date has a smaller timestamp than another exactly if it comes before it.
-/

namespace Calendar

/-- No month has more than 31 days. -/
theorem daysInMonth_le
    (year month : Nat) :
    daysInMonth year month ≤ 31 := by
  unfold daysInMonth
  split <;> (try split) <;> omega

/-- The months before a later month have no fewer days. -/
theorem daysBeforeMonth_mono
    (year : Nat)
    {month later : Nat}
    (follows : month ≤ later) :
    daysBeforeMonth year month ≤ daysBeforeMonth year later := by
  induction follows with
  | refl =>
      exact Nat.le_refl _
  | @step later _ inductionHypothesis =>
      refine Nat.le_trans inductionHypothesis ?_
      cases later with
      | zero =>
          exact Nat.le_refl _
      | succ previous =>
          exact Nat.le_add_right ..

/-- The days before the month that follows are those of one more month. -/
theorem daysBeforeMonth_succ
    (year : Nat)
    {month : Nat}
    (proper : 1 ≤ month) :
    daysBeforeMonth year (month + 1) =
      daysBeforeMonth year month + daysInMonth year month := by
  cases month with
  | zero =>
      cases proper
  | succ previous =>
      rfl

/-- The months of a year have as many days as the year. -/
theorem daysBeforeMonth_thirteen
    (year : Nat) :
    daysBeforeMonth year 13 = if isLeapYear year then 366 else 365 := by
  simp only [daysBeforeMonth, daysInMonth]
  split <;> rfl

/-- The days before the year that follows are those of twelve more months. -/
theorem daysBeforeYear_succ
    {year : Nat}
    (proper : 1 ≤ year) :
    daysBeforeYear (year + 1) =
      daysBeforeYear year + daysBeforeMonth year 13 := by
  obtain ⟨elapsed, rfl⟩ := Nat.exists_eq_add_of_le' proper
  rw [daysBeforeMonth_thirteen]
  simp only [daysBeforeYear, isLeapYear, Nat.add_sub_cancel, Nat.succ_div,
    Nat.dvd_iff_mod_eq_zero, Bool.and_eq_true, Bool.or_eq_true,
    decide_eq_true_eq, ne_eq]
  split_ifs <;> omega

/-- The years before a later year have no fewer days. -/
theorem daysBeforeYear_mono :
    Monotone daysBeforeYear := by
  refine monotone_nat_of_le_succ fun year => ?_
  cases year with
  | zero =>
      exact Nat.le_refl _
  | succ previous =>
      rw [daysBeforeYear_succ (Nat.succ_le_succ (Nat.zero_le previous))]
      exact Nat.le_add_right ..

end Calendar

namespace Date

/-- The components of a date that exists lie within their bounds. -/
theorem isActual_iff
    {date : Date} :
    date.isActual = true ↔
      (1 ≤ date.year ∧ date.year ≤ Calendar.lastYear) ∧
        (1 ≤ date.month ∧ date.month ≤ 12) ∧
        1 ≤ date.day ∧
          date.day ≤ Calendar.daysInMonth date.year date.month := by
  simp only [isActual, Bool.and_eq_true, decide_eq_true_eq, and_assoc]

/-- A date is proper if it has a day of a month of some year, however late. -/
structure IsProper
    (date : Date) : Prop where
  year : 1 ≤ date.year
  month : 1 ≤ date.month ∧ date.month ≤ 12
  day :
    1 ≤ date.day ∧ date.day ≤ Calendar.daysInMonth date.year date.month

/-- A date exists exactly if it is proper and its year is not too late. -/
theorem isActual_iff_isProper
    {date : Date} :
    date.isActual = true ↔
      date.IsProper ∧ date.year ≤ Calendar.lastYear := by
  rw [isActual_iff]
  constructor
  · rintro ⟨⟨positive, bounded⟩, month, day⟩
    exact ⟨⟨positive, month, day⟩, bounded⟩
  · rintro ⟨proper, bounded⟩
    exact ⟨⟨proper.year, bounded⟩, proper.month, proper.day⟩

/-- A date that exists is proper. -/
theorem isProper_of_isActual
    {date : Date}
    (actual : date.isActual = true) :
    date.IsProper :=
  (isActual_iff_isProper.mp actual).1

/-- A date comes before another by its year, its month or its day. -/
theorem before_iff
    {first last : Date} :
    first.before last = true ↔
      first.year < last.year ∨
        first.year = last.year ∧
          (first.month < last.month ∨
            first.month = last.month ∧ first.day < last.day) := by
  simp [before]

/-- Of two dates that differ, one comes before the other. -/
theorem before_or_before
    {first last : Date}
    (differ : first ≠ last) :
    first.before last = true ∨ last.before first = true := by
  obtain ⟨firstYear, firstMonth, firstDay⟩ := first
  obtain ⟨lastYear, lastMonth, lastDay⟩ := last
  simp only [ne_eq, mk.injEq] at differ
  rw [before_iff, before_iff]
  dsimp only
  omega

/-- A proper date lies within its month. -/
theorem ordinal_le
    {date : Date}
    (proper : date.IsProper) :
    date.ordinal ≤
      Calendar.daysBeforeYear date.year +
        Calendar.daysBeforeMonth date.year (date.month + 1) := by
  rw [Calendar.daysBeforeMonth_succ _ proper.month.1]
  have withinMonth := proper.day.2
  unfold ordinal
  omega

/-- A proper date lies within its year. -/
theorem ordinal_le_year
    {date : Date}
    (proper : date.IsProper) :
    date.ordinal ≤ Calendar.daysBeforeYear (date.year + 1) := by
  have months :=
    Calendar.daysBeforeMonth_mono date.year
      (Nat.succ_le_succ proper.month.2)
  rw [Calendar.daysBeforeYear_succ proper.year]
  exact Nat.le_trans (ordinal_le proper) (Nat.add_le_add_left months _)

/-- Of two proper dates, the first has the smaller number. -/
theorem ordinal_lt_of_before
    {first last : Date}
    (firstProper : first.IsProper)
    (lastProper : last.IsProper)
    (isBefore : first.before last = true) :
    first.ordinal < last.ordinal := by
  have present := lastProper.day.1
  rcases before_iff.mp isBefore with
    earlierYear | ⟨sameYear, earlierMonth | ⟨sameMonth, earlierDay⟩⟩
  · have years :
        Calendar.daysBeforeYear (first.year + 1) ≤
          Calendar.daysBeforeYear last.year :=
      Calendar.daysBeforeYear_mono earlierYear
    have within := ordinal_le_year firstProper
    rw [ordinal.eq_def last]
    omega
  · have months :
        Calendar.daysBeforeMonth last.year (first.month + 1) ≤
          Calendar.daysBeforeMonth last.year last.month :=
      Calendar.daysBeforeMonth_mono last.year earlierMonth
    have within := ordinal_le firstProper
    rw [sameYear] at within
    rw [ordinal.eq_def last]
    omega
  · unfold ordinal
    rw [sameYear, sameMonth]
    omega

/-- A proper date has a smaller number than another exactly if it comes before it. -/
theorem ordinal_lt_iff
    {first last : Date}
    (firstProper : first.IsProper)
    (lastProper : last.IsProper) :
    first.ordinal < last.ordinal ↔ first.before last = true := by
  constructor
  · intro precedes
    have differ : first ≠ last := by
      rintro rfl
      exact Nat.lt_irrefl _ precedes
    rcases before_or_before differ with isBefore | isAfter
    · exact isBefore
    · have follows := ordinal_lt_of_before lastProper firstProper isAfter
      omega
  · exact ordinal_lt_of_before firstProper lastProper

/-- Proper dates with the same number are the same. -/
theorem eq_of_ordinal_eq
    {first last : Date}
    (firstProper : first.IsProper)
    (lastProper : last.IsProper)
    (same : first.ordinal = last.ordinal) :
    first = last := by
  by_contra differ
  rcases before_or_before differ with isBefore | isAfter
  · have precedes := ordinal_lt_of_before firstProper lastProper isBefore
    omega
  · have follows := ordinal_lt_of_before lastProper firstProper isAfter
    omega

/-- A date has no greater timestamp than one that does not come before it. -/
theorem timestamp_le_iff
    {first last : Date}
    (firstActual : first.isActual = true)
    (lastActual : last.isActual = true) :
    first.timestamp ≤ last.timestamp ↔ last.before first = false := by
  have byOrdinal :
      first.timestamp ≤ last.timestamp ↔ ¬last.ordinal < first.ordinal := by
    unfold timestamp Moment.timestamp dayNumber
    dsimp only
    omega
  rw [byOrdinal, ← Bool.not_eq_true,
    ordinal_lt_iff (isProper_of_isActual lastActual)
      (isProper_of_isActual firstActual)]

/-- The date with some components is the one that exists and has them. -/
theorem ofComponents?_eq_some_iff
    {year month day : Int}
    {date : Date} :
    ofComponents? year month day = some date ↔
      date.isActual = true ∧
        year = date.year ∧ month = date.month ∧ day = date.day := by
  unfold ofComponents?
  constructor
  · intro found
    split at found
    case isTrue positive =>
      dsimp only at found
      split at found
      case isTrue actual =>
        cases found
        refine ⟨actual, ?_, ?_, ?_⟩ <;> dsimp only <;> omega
      case isFalse =>
        cases found
    case isFalse =>
      cases found
  · obtain ⟨dateYear, dateMonth, dateDay⟩ := date
    rintro ⟨actual, rfl, rfl, rfl⟩
    rw [if_pos (by omega)]
    simpa using actual

end Date

namespace DateInputs

/-- Inputs denote a date if they write its components. -/
structure Denote
    (inputs : DateInputs)
    (date : Date) : Prop where
  year : inputs.year.toInt? = some (date.year : Int)
  month : inputs.month.toInt? = some (date.month : Int)
  day : inputs.day.toInt? = some (date.day : Int)

/-- Inputs denote no more than one date. -/
theorem Denote.unique
    {inputs : DateInputs}
    {date other : Date}
    (denotes : inputs.Denote date)
    (otherDenotes : inputs.Denote other) :
    date = other := by
  cases date
  cases other
  have sameYear := denotes.year.symm.trans otherDenotes.year
  have sameMonth := denotes.month.symm.trans otherDenotes.month
  have sameDay := denotes.day.symm.trans otherDenotes.day
  simp only [Option.some.injEq, Nat.cast_inj] at sameYear sameMonth sameDay
  rw [Date.mk.injEq]
  exact ⟨sameYear, sameMonth, sameDay⟩

/-- The components of a date that exists lie within their bounds if its year does. -/
theorem Denote.components?
    {inputs : DateInputs}
    {date : Date}
    (denotes : inputs.Denote date)
    (actual : date.isActual = true)
    {earliest latest : Int}
    (years : earliest ≤ date.year ∧ date.year ≤ latest) :
    inputs.components? earliest latest =
      some ((date.year : Int), (date.month : Int), (date.day : Int)) := by
  obtain ⟨_, ⟨firstMonth, lastMonth⟩, firstDay, withinMonth⟩ :=
    Date.isActual_iff.mp actual
  have short := Calendar.daysInMonth_le date.year date.month
  rw [components?_eq_some_iff]
  simp only [Value.integerWithin?_eq_some_iff]
  exact ⟨⟨denotes.year, years⟩, ⟨denotes.month, by omega⟩,
    denotes.day, by omega⟩

/-- The components of a date that exists fit into any memory. -/
theorem Denote.fitInto
    {inputs : DateInputs}
    {date : Date}
    (denotes : inputs.Denote date)
    (actual : date.isActual = true)
    (memory : Memory) :
    inputs.FitInto memory := by
  obtain ⟨⟨_, inCalendar⟩, ⟨_, lastMonth⟩, _, withinMonth⟩ :=
    Date.isActual_iff.mp actual
  have short := Calendar.daysInMonth_le date.year date.month
  unfold Calendar.lastYear at inCalendar
  exact
    { year := Value.fitsInto_of_lt denotes.year (by omega)
      month := Value.fitsInto_of_lt denotes.month (by omega)
      day := Value.fitsInto_of_lt denotes.day (by omega) }

/-- The components of a date that exists do not overflow. -/
theorem Denote.not_overflow
    {inputs : DateInputs}
    {date : Date}
    (denotes : inputs.Denote date)
    (actual : date.isActual = true)
    (earliest latest : Int) :
    ¬inputs.Overflow earliest latest := by
  rintro ⟨year, month, day, found, isLarge⟩
  obtain ⟨isYear, _⟩ := components?_eq_some_iff.mp found
  have sameYear :=
    (Value.integerWithin?_eq_some_iff.mp isYear).1.symm.trans denotes.year
  have inCalendar := (Date.isActual_iff.mp actual).1.2
  rw [Option.some.inj sameYear] at isLarge
  unfold Check.yearOverflow at isLarge
  unfold Calendar.lastYear at inCalendar
  omega

/-- Inputs make a date if they denote one that exists, in a year within bounds. -/
theorem date?_eq_some_iff
    {inputs : DateInputs}
    {earliest latest : Int}
    {date : Date} :
    inputs.date? earliest latest = some date ↔
      inputs.Denote date ∧ date.isActual = true ∧
        earliest ≤ date.year ∧ date.year ≤ latest := by
  unfold date?
  rw [Option.bind_eq_some_iff]
  constructor
  · rintro ⟨⟨year, month, day⟩, isComponents, isDate⟩
    obtain ⟨isYear, isMonth, isDay⟩ := components?_eq_some_iff.mp isComponents
    obtain ⟨actual, rfl, rfl, rfl⟩ :=
      Date.ofComponents?_eq_some_iff.mp isDate
    rw [Value.integerWithin?_eq_some_iff] at isYear isMonth isDay
    exact ⟨⟨isYear.1, isMonth.1, isDay.1⟩, actual, isYear.2⟩
  · rintro ⟨denotes, actual, years⟩
    exact ⟨_, denotes.components? actual years,
      Date.ofComponents?_eq_some_iff.mpr ⟨actual, rfl, rfl, rfl⟩⟩

end DateInputs

end FormCheck
