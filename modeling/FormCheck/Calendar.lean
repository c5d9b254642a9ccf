import FormCheck.Number.Digits

namespace FormCheck

/-!
# The Gregorian calendar

Dates run from 1 January of the year 1 to 31 December 9999, by the rules of the
Gregorian calendar throughout. Days are numbered from 1 January 1970, and a
moment's timestamp counts its seconds from the start of that day.
-/

namespace Calendar

/-- The last year of the calendar. -/
def lastYear : Nat := 9999

/-- Whether a year has a 29 February. -/
def isLeapYear (year : Nat) : Bool :=
  year % 4 = 0 && (year % 100 ≠ 0 || year % 400 = 0)

/-- The number of days of a month. -/
def daysInMonth (year month : Nat) : Nat :=
  match month with
  | 2 => if isLeapYear year then 29 else 28
  | 4 | 6 | 9 | 11 => 30
  | _ => 31

/-- The number of days in the months of a year before a given month. -/
def daysBeforeMonth (year : Nat) : Nat → Nat
  | 0 => 0
  | 1 => 0
  | month + 2 => daysBeforeMonth year (month + 1) + daysInMonth year (month + 1)

/-- The number of days in the years before a given year, from the year 1 on. -/
def daysBeforeYear (year : Nat) : Nat :=
  let elapsed := year - 1
  365 * elapsed + elapsed / 4 - elapsed / 100 + elapsed / 400

end Calendar

/-- A calendar date, not necessarily one that exists. -/
structure Date where
  year : Nat
  month : Nat
  day : Nat
deriving Repr, DecidableEq

namespace Date

/-- Whether a date exists in the calendar. -/
def isActual (date : Date) : Bool :=
  1 ≤ date.year && date.year ≤ Calendar.lastYear &&
    1 ≤ date.month && date.month ≤ 12 &&
    1 ≤ date.day && date.day ≤ Calendar.daysInMonth date.year date.month

/-- The existing date with the given components, if there is one. -/
def ofComponents? (year month day : Int) : Option Date :=
  if 0 ≤ year ∧ 0 ≤ month ∧ 0 ≤ day then
    let date : Date := ⟨year.toNat, month.toNat, day.toNat⟩
    if date.isActual then some date else none
  else
    none

/-- The number of days since the last day before the year 1. -/
def ordinal (date : Date) : Nat :=
  Calendar.daysBeforeYear date.year +
    Calendar.daysBeforeMonth date.year date.month + date.day

/-- The number of days since 1 January 1970, negative before it. -/
def dayNumber (date : Date) : Int :=
  (date.ordinal : Int) - (⟨1970, 1, 1⟩ : Date).ordinal

/-- Whether a date comes before another. -/
def before (left right : Date) : Bool :=
  left.year < right.year ||
    left.year = right.year &&
      (left.month < right.month ||
        left.month = right.month && left.day < right.day)

/-- A number with zeros in front up to a width. -/
def padded (width number : Nat) : List Char :=
  let digits := Number.naturalDigits number
  List.replicate (width - digits.length) '0' ++ digits

/-- The text `YYYY-MM-DD` of a date. -/
def text (date : Date) : String :=
  String.ofList
    (padded 4 date.year ++ '-' :: padded 2 date.month ++ '-' ::
      padded 2 date.day)

end Date

/-- A date and a time of day. -/
structure Moment where
  date : Date
  hour : Nat
  minute : Nat
  second : Nat
deriving Repr, DecidableEq

namespace Moment

/-- The number of seconds since the start of 1970, negative before it. -/
def timestamp (moment : Moment) : Int :=
  86400 * moment.date.dayNumber +
    (3600 * moment.hour + 60 * moment.minute + moment.second : Nat)

example : (⟨⟨9999, 12, 31⟩, 23, 59, 59⟩ : Moment).timestamp = 253402300799 := by
  decide

example : (⟨⟨1969, 12, 31⟩, 23, 59, 59⟩ : Moment).timestamp = -1 := by
  decide

end Moment

end FormCheck
