import FormCheck.Number.Shortest
import FormCheck.Text.Quoted
import FormCheck.Value

namespace FormCheck

/-!
# Text of values

A text stands for itself; every other value has a written form. In a written
form the members of collections are written too, texts among them quoted.
Writing an integer that has too many digits is a fault.
-/

namespace Value

/-- Texts with a separator between them. -/
def joined (separator : String) : List String → String
  | [] => ""
  | [single] => single
  | leading :: rest => leading ++ separator ++ joined separator rest

/-- The written form of a value that is made of others. -/
def writtenCall (name : String) (parts : List String) : String :=
  name ++ "(" ++ joined ", " parts ++ ")"

/-- The written form of a date. -/
def writtenDate (day : Date) : String :=
  writtenCall "datetime.date"
    [toString day.year, toString day.month, toString day.day]

/-- The written form of the distance of a clock from universal time. -/
def writtenOffset (offset : Int) : String :=
  if offset = 0 then
    "datetime.timezone.utc"
  else
    let seconds (count : Int) : String := "seconds=" ++ toString count
    writtenCall "datetime.timezone"
      [writtenCall "datetime.timedelta"
        (if offset < 0 then
          ["days=-1", seconds (DateTime.secondsOfDay + offset)]
        else
          [seconds offset])]

/-- The written form of a date with a time of day, without seconds that are zero. -/
def writtenDateTime (time : DateTime) : String :=
  let day := time.moment.date
  let fraction :=
    if time.microsecond ≠ 0 then
      [time.moment.second, time.microsecond]
    else if time.moment.second ≠ 0 then
      [time.moment.second]
    else
      []
  let components :=
    [day.year, day.month, day.day, time.moment.hour, time.moment.minute] ++
      fraction
  let offset :=
    match time.offset with
    | some offset => ["tzinfo=" ++ writtenOffset offset]
    | none => []
  writtenCall "datetime.datetime" (components.map toString ++ offset)

mutual

/-- The written form of a value. -/
def written : Value → Except Fault String
  | .null => .ok "None"
  | .bool truth => .ok (if truth then "True" else "False")
  | .int number => Number.integerText number
  | .float number => .ok number.text
  | .text characters => .ok (Text.quoted characters)
  | .bytes octets => .ok ("b" ++ Text.quotedBytes octets)
  | .date day => .ok (writtenDate day)
  | .dateTime time => .ok (writtenDateTime time)
  | .cycle isMapping =>
      .ok (if isMapping then "\x7b...\x7d" else "[...]")
  | .list items => do
      return "[" ++ joined ", " (← writtenItems items) ++ "]"
  | .tuple items => do
      match ← writtenItems items with
      | [item] => return "(" ++ item ++ ",)"
      | texts => return "(" ++ joined ", " texts ++ ")"
  | .set items => do
      match ← writtenItems items with
      | [] => return "set()"
      | texts => return "\x7b" ++ joined ", " texts ++ "\x7d"
  | .dict entries => do
      return "\x7b" ++ joined ", " (← writtenEntries entries) ++ "\x7d"

/-- The written forms of some values. -/
def writtenItems : List Value → Except Fault (List String)
  | [] => .ok []
  | item :: rest => do
      let text ← written item
      let texts ← writtenItems rest
      return text :: texts

/-- The written forms of some entries. -/
def writtenEntries : List (Value × Value) → Except Fault (List String)
  | [] => .ok []
  | (key, value) :: rest => do
      let keyText ← written key
      let valueText ← written value
      let texts ← writtenEntries rest
      return (keyText ++ ": " ++ valueText) :: texts

end

/-- The text of a value. -/
def shown : Value → Except Fault String
  | .text characters => .ok characters
  | .date day => .ok day.text
  | .dateTime time => .ok time.text
  | value => value.written

/-- The text of a value, empty where there is none. -/
def asText : Value → Except Fault String
  | .null => .ok ""
  | value => value.shown

end Value

end FormCheck
