import FormCheck.Check.Component
import FormCheck.Check.Text
import FormCheck.Text.Case

namespace FormCheck

/-!
# Semesters and program numbers

A semester is a year and one of the tags A and B; a program number is a semester
and three digits from 001 to 999. Both may be typed in lower case and are stored
in upper case. Each part is checked under a key of its own.
-/

namespace Check

/-- The tags of the two semesters of a year. -/
def semesterTags : Value :=
  .tuple [.text "A", .text "B"]

/-- A text without the blanks around it, in upper case. -/
def upperText (text : String) : List Char :=
  Text.upperCase (Text.stripped text.toList)

/-- Store a semester tag in upper case. -/
def semesterTag (value key : Value) : Check Unit := do
  textLength value key (.int 1)
  unless ← hasErrors key do
    let text := String.ofList (Text.upperCase (← value.asText).toList)
    textAmong (.text text) key semesterTags

/-- Four digits, the letter behind them, and what follows. -/
def yearAndTag? : List Char → Option (List Char × Char × List Char)
  | first :: second :: third :: fourth :: tag :: rest =>
      let digits := [first, second, third, fourth]
      if digits.all Text.isAsciiDigit && 'A' ≤ tag && tag ≤ 'Z' then
        some (digits, tag, rest)
      else
        none
  | _ => none

/-- Check the year and the tag of a field under keys of their own. -/
def yearAndTag (environment : Environment) (digits : List Char) (tag : Char)
    (key lower upper : Value) : Check Bool := do
  let yearKey ← partKey key "year"
  year environment (.text (String.ofList digits)) yearKey lower upper
  if ← hasErrors yearKey then
    return false
  let tagKey ← partKey key "tag"
  semesterTag (.text (String.ofList [tag])) tagKey
  return !(← hasErrors tagKey)

/-- Store a semester such as `2025B`. -/
def semester (environment : Environment) (value key lower upper : Value) :
    Check Unit := do
  let lower := lower.orDefault environment.settings.minimalYear
  let text := upperText (← value.asText)
  match yearAndTag? text with
  | some (digits, tag, []) =>
      if ← yearAndTag environment digits tag key lower upper then
        setValue key (.text (String.ofList text))
  | _ => reject key "Invalid semester. Must look like 2025A."

/-- Store a program number such as `2025B001`. -/
def programNumber (environment : Environment)
    (value key lower upper : Value) : Check Unit := do
  let lower := lower.orDefault environment.settings.minimalYear
  let upper := upper.orDefault (.int environment.nextYear)
  let text := upperText (← value.asText)
  match yearAndTag? text with
  | some (digits, tag, [hundreds, tens, units]) =>
      let number := [hundreds, tens, units]
      if number.all Text.isAsciiDigit then
        if ← yearAndTag environment digits tag key lower upper then
          let numberKey ← partKey key "number"
          shortProgramNumber environment (.text (String.ofList number))
            numberKey .null .null
          unless ← hasErrors numberKey do
            setValue key (.text (String.ofList text))
      else
        reject key "Invalid program number. Must look like 2025B001."
  | _ => reject key "Invalid program number. Must look like 2025B001."

end Check

end FormCheck
