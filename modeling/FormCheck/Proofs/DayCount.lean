import FormCheck.Proofs.Calendar
import Mathlib.Logic.Function.Iterate

namespace FormCheck

/-!
# Counting days

Days are counted by going from each date to the one that follows it. The number
of a day is how often that takes one from the first day of 1970 to its date, or
back to that day from an earlier date. So timestamps are told by the calendar
alone, and moments that exist are ordered by them as by their components.
-/

namespace Date

/-- The date that follows a date. -/
def next
    (date : Date) : Date :=
  if date.day < Calendar.daysInMonth date.year date.month then
    ⟨date.year, date.month, date.day + 1⟩
  else if date.month < 12 then
    ⟨date.year, date.month + 1, 1⟩
  else
    ⟨date.year + 1, 1, 1⟩

example : next ⟨2023, 2, 28⟩ = ⟨2023, 3, 1⟩ := by
  decide

/-- The first day of a month exists. -/
theorem isProper_first
    {year month : Nat}
    (isYear : 1 ≤ year)
    (isMonth : 1 ≤ month ∧ month ≤ 12) :
    IsProper ⟨year, month, 1⟩ where
  year := isYear
  month := isMonth
  day := by
    refine ⟨Nat.le_refl 1, ?_⟩
    dsimp only
    unfold Calendar.daysInMonth
    split <;> (try split) <;> omega

/-- The date that follows a proper one is proper. -/
theorem IsProper.next
    {date : Date}
    (proper : date.IsProper) :
    date.next.IsProper := by
  unfold Date.next
  split_ifs with hasMore inYear
  · exact
      { year := proper.year
        month := proper.month
        day := ⟨Nat.le_add_left 1 _, hasMore⟩ }
  · exact isProper_first proper.year ⟨Nat.le_add_left 1 _, inYear⟩
  · exact isProper_first (Nat.le_add_left 1 _) ⟨Nat.le_refl 1, by decide⟩

/-- The date that follows a proper one has the next number. -/
theorem ordinal_next
    {date : Date}
    (proper : date.IsProper) :
    date.next.ordinal = date.ordinal + 1 := by
  have inMonth := proper.day.2
  have inYear := proper.month
  have nextMonth := Calendar.daysBeforeMonth_succ date.year inYear.1
  unfold Date.next
  split_ifs with hasMore hasMonth
  · rfl
  · unfold ordinal
    dsimp only
    omega
  · have nextYear := Calendar.daysBeforeYear_succ proper.year
    have isDecember : date.month = 12 := by omega
    have noMonth : Calendar.daysBeforeMonth (date.year + 1) 1 = 0 := rfl
    unfold ordinal
    dsimp only
    rw [isDecember] at nextMonth inMonth hasMore
    rw [nextYear, nextMonth, noMonth, isDecember]
    omega

/-- Going on from a proper date, each step adds one to the number. -/
theorem ordinal_iterate
    {date : Date}
    (proper : date.IsProper)
    (steps : Nat) :
    (Date.next^[steps] date).IsProper ∧
      (Date.next^[steps] date).ordinal = date.ordinal + steps := by
  induction steps with
  | zero =>
      exact ⟨proper, rfl⟩
  | succ steps inductionHypothesis =>
      obtain ⟨properThen, reached⟩ := inductionHypothesis
      rw [Function.iterate_succ_apply']
      refine ⟨properThen.next, ?_⟩
      rw [ordinal_next properThen, reached, Nat.add_assoc]

/--
A date lies some days after another if so many steps lead there; if the days are
negative, so many steps lead back.
-/
def LiesAfter
    (last first : Date)
    (days : Int) : Prop :=
  Date.next^[days.toNat] first = Date.next^[(-days).toNat] last

/-- Proper dates lie apart by the difference of their numbers, and no other way. -/
theorem liesAfter_iff
    {first last : Date}
    (firstProper : first.IsProper)
    (lastProper : last.IsProper)
    {days : Int} :
    last.LiesAfter first days ↔
      days = (last.ordinal : Int) - first.ordinal := by
  obtain ⟨properFrom, reachedFrom⟩ :=
    ordinal_iterate firstProper days.toNat
  obtain ⟨properTo, reachedTo⟩ :=
    ordinal_iterate lastProper (-days).toNat
  constructor
  · intro meet
    have same := congrArg ordinal meet
    rw [reachedFrom, reachedTo] at same
    omega
  · intro isDifference
    apply eq_of_ordinal_eq properFrom properTo
    rw [reachedFrom, reachedTo]
    omega

/-- The day from which days are numbered. -/
def epoch : Date :=
  ⟨1970, 1, 1⟩

/-- A date lies after the first day of 1970 by its number. -/
theorem liesAfter_epoch_iff
    {date : Date}
    (actual : date.isActual = true)
    {days : Int} :
    date.LiesAfter epoch days ↔ days = date.dayNumber :=
  liesAfter_iff (isProper_of_isActual (by decide))
    (isProper_of_isActual actual)

end Date

namespace Moment

/-- A moment exists if its date does and a clock can show its time. -/
structure IsActual
    (moment : Moment) : Prop where
  date : moment.date.isActual = true
  hour : moment.hour ≤ 23
  minute : moment.minute ≤ 59
  second : moment.second ≤ 59

/-- The timestamp of a moment counts the days up to it and the seconds of its day. -/
theorem timestamp_eq_of_liesAfter
    {moment : Moment}
    (actual : moment.date.isActual = true)
    {days : Int}
    (after : moment.date.LiesAfter Date.epoch days) :
    moment.timestamp =
      86400 * days +
        (3600 * moment.hour + 60 * moment.minute + moment.second) := by
  rw [(Date.liesAfter_epoch_iff actual).mp after]
  unfold timestamp
  push_cast
  rfl

/-- The components of a moment, from the year to the second. -/
def components
    (moment : Moment) : List Int :=
  [moment.date.year, moment.date.month, moment.date.day, moment.hour,
    moment.minute, moment.second]

/-- Moments are ordered by their dates, and on one day by their times. -/
theorem timestamp_lt_iff
    {first last : Moment}
    (firstActual : first.IsActual)
    (lastActual : last.IsActual) :
    first.timestamp < last.timestamp ↔
      first.components < last.components := by
  have byDate :=
    Date.ordinal_lt_iff (Date.isProper_of_isActual firstActual.date)
      (Date.isProper_of_isActual lastActual.date)
  have sameDate :
      first.date.ordinal = last.date.ordinal ↔ first.date = last.date :=
    ⟨Date.eq_of_ordinal_eq (Date.isProper_of_isActual firstActual.date)
      (Date.isProper_of_isActual lastActual.date), congrArg Date.ordinal⟩
  have byNumber :
      first.timestamp < last.timestamp ↔
        first.date.ordinal < last.date.ordinal ∨
          first.date.ordinal = last.date.ordinal ∧
            3600 * first.hour + 60 * first.minute + first.second <
              3600 * last.hour + 60 * last.minute + last.second := by
    have firstTime := firstActual.hour
    have firstMinute := firstActual.minute
    have firstSecond := firstActual.second
    have lastTime := lastActual.hour
    have lastMinute := lastActual.minute
    have lastSecond := lastActual.second
    unfold timestamp Date.dayNumber
    omega
  rw [byNumber, byDate, sameDate, Date.before_iff]
  obtain ⟨⟨year, month, day⟩, hour, minute, second⟩ := first
  obtain ⟨⟨otherYear, otherMonth, otherDay⟩, otherHour, otherMinute,
    otherSecond⟩ := last
  have firstMinute := firstActual.minute
  have firstSecond := firstActual.second
  have lastMinute := lastActual.minute
  have lastSecond := lastActual.second
  simp only [components, List.cons_lt_cons_iff, List.not_lt_nil, and_false,
    or_false, Date.mk.injEq] at *
  omega

/-- Moments that exist and have the same timestamp are the same. -/
theorem eq_of_timestamp_eq
    {first last : Moment}
    (firstActual : first.IsActual)
    (lastActual : last.IsActual)
    (same : first.timestamp = last.timestamp) :
    first = last := by
  have firstHour := firstActual.hour
  have firstMinute := firstActual.minute
  have firstSecond := firstActual.second
  have lastHour := lastActual.hour
  have lastMinute := lastActual.minute
  have lastSecond := lastActual.second
  unfold timestamp Date.dayNumber at same
  have sameDate : first.date = last.date :=
    Date.eq_of_ordinal_eq (Date.isProper_of_isActual firstActual.date)
      (Date.isProper_of_isActual lastActual.date) (by omega)
  rw [sameDate] at same
  have sameTime :
      first.hour = last.hour ∧ first.minute = last.minute ∧
        first.second = last.second := by
    omega
  obtain ⟨date, hour, minute, second⟩ := first
  obtain ⟨otherDate, otherHour, otherMinute, otherSecond⟩ := last
  obtain rfl : date = otherDate := sameDate
  obtain ⟨rfl, rfl, rfl⟩ := sameTime
  rfl

end Moment

/-- The timestamp of a date counts the days up to it. -/
theorem Date.timestamp_eq_of_liesAfter
    {date : Date}
    (actual : date.isActual = true)
    {days : Int}
    (after : date.LiesAfter Date.epoch days) :
    date.timestamp = 86400 * days := by
  have counted :
      date.timestamp =
        86400 * days + (3600 * (0 : Nat) + 60 * (0 : Nat) + (0 : Nat)) :=
    Moment.timestamp_eq_of_liesAfter actual after
  simpa using counted

end FormCheck
