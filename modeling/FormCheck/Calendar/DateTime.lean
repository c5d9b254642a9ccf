import FormCheck.Calendar

namespace FormCheck

/-!
# Dates with a time of day

A date with a time of day is read off a clock. If it is known how far that clock
is ahead of universal time, the reading belongs to one instant; readings of
different clocks are then compared by their instants. Readings of a clock of
which that is not known are only compared with each other.
-/

/--
A date and a time of day to the microsecond. The offset says how many seconds the
clock is ahead of universal time, if that is known.
-/
structure DateTime where
  moment : Moment
  microsecond : Nat
  offset : Option Int
deriving Repr, DecidableEq

namespace DateTime

/-- The number of seconds of a day. -/
def secondsOfDay : Nat := 86400

/-- Whether a clock can show a time of an existing day. -/
def isActual (time : DateTime) : Bool :=
  time.moment.date.isActual && time.moment.hour < 24 &&
    time.moment.minute < 60 && time.moment.second < 60 &&
    time.microsecond < 1000000 &&
    time.offset.all fun offset => offset.natAbs < secondsOfDay

/-- The microseconds since the start of 1970, as the clock shows them. -/
def reading (time : DateTime) : Int :=
  1000000 * time.moment.timestamp + time.microsecond

/-- The microseconds since the start of 1970 in universal time. -/
def instant? (time : DateTime) : Option Int :=
  time.offset.map fun offset => time.reading - 1000000 * offset

/-- The order of two times, unless the clock of only one of them is known. -/
def compare? (left right : DateTime) : Option Ordering :=
  match left.instant?, right.instant? with
  | some left, some right => some (compare left right)
  | none, none => some (compare left.reading right.reading)
  | _, _ => none

/-- Hours and minutes with a colon between them. -/
def clockText (hour minute : Nat) : List Char :=
  Date.padded 2 hour ++ ':' :: Date.padded 2 minute

/-- The text of an offset: a sign, hours and minutes. -/
def offsetText (offset : Int) : List Char :=
  let minutes := offset.natAbs / 60
  (if offset < 0 then '-' else '+') :: clockText (minutes / 60) (minutes % 60)

/-- The text `YYYY-MM-DD HH:MM:SS`, a fraction if there is one, and the offset. -/
def text (time : DateTime) : String :=
  let fraction :=
    if time.microsecond = 0 then [] else '.' :: Date.padded 6 time.microsecond
  time.moment.date.text ++ " " ++
    String.ofList
      (clockText time.moment.hour time.moment.minute ++
        ':' :: Date.padded 2 time.moment.second ++ fraction ++
        (time.offset.map offsetText).getD [])

example :
    (⟨⟨⟨2024, 1, 1⟩, 10, 0, 0⟩, 0, some 3600⟩ : DateTime).compare?
      ⟨⟨⟨2024, 1, 1⟩, 9, 0, 0⟩, 0, some 0⟩ = some .eq := by
  decide

end DateTime

end FormCheck
