import FormCheck.Check.Semester

namespace FormCheck

/-!
# Dates

A date is submitted in components, each of which is checked under a key of its
own. A date that exists is stored with its timestamp. Two dates make a range if
the second is not before the first, and a date belongs to the semester that it
lies in: A runs from February to July, B from August to the next January.
-/

namespace Check

/-- Years from this one on are too large for the calendar to look at. -/
def yearOverflow : Int := 2147483648

/-- The mapping of the components of a date. -/
def componentsValue (components : List (String × Int)) : Value :=
  .record (components.map fun component =>
    (component.1, .int component.2))

/-- Store a moment: its timestamp, its components, and both together. -/
def storeMoment (key : Value) (moment : Moment) (components : Value) :
    Check Unit := do
  let timestamp : Value := .int moment.timestamp
  setValue key
    (.record [("timestamp", timestamp), ("components", components)])
  setValue (← partKey key "timestamp") timestamp
  setValue (← partKey key "components") components

/-- Whether one of the parts of a field has errors. -/
def anyPartFailed (key : Value) : List String → Check Bool
  | [] => return false
  | part :: rest => do
      if ← hasErrors (← partKey key part) then
        return true
      else
        anyPartFailed key rest

/-- The integer stored under the key of a part of a field. -/
def partInteger (key : Value) (part : String) : Check Int := do
  match ← Check.value (← partKey key part) with
  | .int number => return number
  | _ => stop .notNumeric

/-- Store the moment with the given date, or record that there is none. -/
def composeMoment (key : Value) (year month day : Int)
    (momentOf : Date → Moment) (components : List (String × Int)) :
    Check Unit := do
  if yearOverflow ≤ year then
    stop .tooLarge
  match Date.ofComponents? year month day with
  | some date =>
      storeMoment key (momentOf date) (componentsValue components)
  | none =>
      reject key
        ("Invalid date: " ++ (← Number.integerText year) ++ "-" ++
          (← Number.integerText month) ++ "-" ++ (← Number.integerText day) ++
          ".")

/-- Check the components of a date, each under its key. -/
def dateComponents (environment : Environment)
    (yearValue monthValue dayValue key : Value) : Check Unit := do
  year environment yearValue (← partKey key "year") .null .null
  month environment monthValue (← partKey key "month") (.int 1) (.int 12)
  day environment dayValue (← partKey key "day") (.int 1) (.int 31)

/-- Store a date given by year, month and day. -/
def fullDate (environment : Environment)
    (yearValue monthValue dayValue key : Value) : Check Unit := do
  dateComponents environment yearValue monthValue dayValue key
  unless ← anyPartFailed key ["year", "month", "day"] do
    let year ← partInteger key "year"
    let month ← partInteger key "month"
    let day ← partInteger key "day"
    composeMoment key year month day (fun date => ⟨date, 0, 0, 0⟩)
      [("year", year), ("month", month), ("day", day)]

/-- Store a date and a time of day given by six components. -/
def fullDateTime (environment : Environment)
    (yearValue monthValue dayValue hourValue minuteValue secondValue key :
      Value) :
    Check Unit := do
  dateComponents environment yearValue monthValue dayValue key
  hour environment hourValue (← partKey key "hour") (.int 0) (.int 23)
  minute environment minuteValue (← partKey key "minute") (.int 0) (.int 59)
  second environment secondValue (← partKey key "second") (.int 0) (.int 59)
  unless ← anyPartFailed key
      ["year", "month", "day", "hour", "minute", "second"] do
    let year ← partInteger key "year"
    let month ← partInteger key "month"
    let day ← partInteger key "day"
    let hour ← partInteger key "hour"
    let minute ← partInteger key "minute"
    let second ← partInteger key "second"
    composeMoment key year month day
      (fun date => ⟨date, hour.toNat, minute.toNat, second.toNat⟩)
      [("year", year), ("month", month), ("day", day), ("hour", hour),
        ("minute", minute), ("second", second)]

/-- Whether values were recorded under two keys. -/
def haveValues (first second : Value) : Check Bool := do
  if ← hasValue first then hasValue second else return false

/--
Store the timestamps of two dates of which the second is not before the first.
Both dates are checked in any case, under keys of their own.
-/
def dateRange (environment : Environment)
    (startYear startMonth startDay endYear endMonth endDay key : Value) :
    Check Unit := do
  let startKey ← partKey key "start"
  fullDate environment startYear startMonth startDay startKey
  let endKey ← partKey key "end"
  fullDate environment endYear endMonth endDay endKey
  let startTimestamp ← partKey startKey "timestamp"
  let endTimestamp ← partKey endKey "timestamp"
  if ← haveValues startTimestamp endTimestamp then
    let start ← Check.value startTimestamp
    let finish ← Check.value endTimestamp
    if ← finish.less start then
      reject key "End date cannot be before start date."
    else
      setValue key (.tuple [start, finish])

/-- A number less one. -/
def predecessor (value : Value) : Except Fault Value :=
  match value.number? with
  | some (.int number) => .ok (.int (number - 1))
  | some (.float number) => .ok (.float (number.add (.ofInt (-1))))
  | none => .error .notNumeric

/-- The semester that a date lies in; January belongs to the year before. -/
def semesterOf (year month _day : Value) : Except Fault String := do
  if month == .int 1 then
    return (← (← predecessor year).shown) ++ "B"
  else if ← month.less (.int 8) then
    return (← year.shown) ++ "A"
  else
    return (← year.shown) ++ "B"

/-- Store a date that lies in the given semester. -/
def dateInSemester (environment : Environment)
    (yearValue monthValue dayValue semesterValue key : Value) :
    Check Unit := do
  let dateKey ← partKey key "date"
  fullDate environment yearValue monthValue dayValue dateKey
  let semesterKey ← partKey key "semester"
  semester environment semesterValue semesterKey .null .null
  let componentsKey ← partKey dateKey "components"
  if ← haveValues componentsKey semesterKey then
    let components ← Check.value componentsKey
    let expected ← Check.value semesterKey
    let year ← components.atKey "year"
    let month ← components.atKey "month"
    let day ← components.atKey "day"
    if Value.text (← semesterOf year month day) == expected then
      setValue key (← Check.value dateKey)
    else
      reject key
        ("Date must fall within " ++ (← expected.shown) ++ " semester.")

end Check

end FormCheck
