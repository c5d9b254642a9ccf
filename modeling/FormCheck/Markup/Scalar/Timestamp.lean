import FormCheck.Calendar.DateTime
import FormCheck.Markup.Character
import FormCheck.Text.Digit

namespace FormCheck.Markup

/-!
# Timestamps

A timestamp is a year, a month and a day with dashes between them. A time of day
may follow behind a letter T or blanks, with a fraction of a second and with the
offset of its clock from universal time, where the letter Z stands for none.
Whether such a day and such a time exist is not a question of how they are
written.
-/

/-- A date as it is written, and the time of day if there is one. -/
structure Timestamp where
  date : Date
  time : Option DateTime
deriving Repr, DecidableEq

namespace Timestamp

/-- The number that two digits write. -/
def twoDigits? : List Char → Option (Nat × List Char)
  | first :: second :: rest =>
      if first.isDigit && second.isDigit then
        some (Text.numberOfAscii [first, second], rest)
      else
        none
  | _ => none

/-- The number that one or two digits write, and what stands behind them. -/
def oneOrTwoDigits? (characters : List Char) : Option (Nat × List Char) :=
  match twoDigits? characters with
  | some found => some found
  | none =>
      match characters with
      | first :: rest =>
          if first.isDigit then
            some (Text.numberOfAscii [first], rest)
          else
            none
      | [] => none

/-- What stands behind a sign that must come first. -/
def behind? (sign : Char) : List Char → Option (List Char)
  | first :: rest => if first = sign then some rest else none
  | [] => none

/-- The year, the month and the day at the beginning of some characters. -/
def date? (characters : List Char) : Option (Date × List Char) := do
  let (century, rest) ← twoDigits? characters
  let (year, rest) ← twoDigits? rest
  let (month, rest) ← oneOrTwoDigits? (← behind? '-' rest)
  let (day, rest) ← oneOrTwoDigits? (← behind? '-' rest)
  return (⟨100 * century + year, month, day⟩, rest)

/-- The microseconds that the digits of a fraction of a second write. -/
def microseconds (digits : List Char) : Nat :=
  let leading := digits.take 6
  Text.numberOfAscii (leading ++ List.replicate (6 - leading.length) '0')

/-- The fraction at the beginning of some characters, if there is one. -/
def fraction : List Char → Nat × List Char
  | '.' :: rest =>
      let digits := rest.takeWhile Char.isDigit
      (microseconds digits, rest.drop digits.length)
  | characters => (0, characters)

/-- The seconds that some hours and minutes take. -/
def duration (hours minutes : Nat) : Int :=
  (3600 * hours + 60 * minutes : Nat)

/-- The seconds that the hours and minutes of an offset take. -/
def offsetSize? (characters : List Char) : Option Int := do
  let (hours, rest) ← oneOrTwoDigits? characters
  if rest.isEmpty then
    return duration hours 0
  else
    let (minutes, rest) ← twoDigits? (← behind? ':' rest)
    if rest.isEmpty then some (duration hours minutes) else none

/-- The offset that some characters write, which is unknown if there are none. -/
def offset? (characters : List Char) : Option (Option Int) :=
  if characters.isEmpty then
    some none
  else
    match characters.dropWhile isBlank with
    | ['Z'] => some (some 0)
    | '+' :: rest => (offsetSize? rest).map some
    | '-' :: rest => (offsetSize? rest).map fun size => some (-size)
    | _ => none

/-- What stands behind the separator of a date and a time of day. -/
def behindSeparator? : List Char → Option (List Char)
  | [] => none
  | first :: rest =>
      if first = 'T' || first = 't' then
        some rest
      else if isBlank first then
        some (rest.dropWhile isBlank)
      else
        none

/-- The time on a date that some characters write. -/
def time? (date : Date) (characters : List Char) : Option DateTime := do
  let (hour, rest) ← oneOrTwoDigits? (← behindSeparator? characters)
  let (minute, rest) ← twoDigits? (← behind? ':' rest)
  let (second, rest) ← twoDigits? (← behind? ':' rest)
  let (microsecond, rest) := fraction rest
  return ⟨⟨date, hour, minute, second⟩, microsecond, ← offset? rest⟩

/-- The timestamp that some characters write. -/
def ofCharacters? (characters : List Char) : Option Timestamp := do
  let (date, rest) ← date? characters
  if rest.isEmpty then
    return ⟨date, none⟩
  else
    return ⟨date, some (← time? date rest)⟩

/-- Whether the day and the time of a timestamp exist. -/
def isActual (timestamp : Timestamp) : Bool :=
  timestamp.date.isActual && timestamp.time.all DateTime.isActual

/--
Whether some characters write a timestamp even where any other text might stand.
A date alone then has two digits for the month and for the day.
-/
def isEvident (characters : List Char) : Bool :=
  match ofCharacters? characters with
  | some ⟨_, none⟩ => characters.length = 10
  | some ⟨_, some _⟩ => true
  | none => false

example :
    ofCharacters? "2024-1-2 3:04:05.6+1".toList =
      some ⟨⟨2024, 1, 2⟩,
        some ⟨⟨⟨2024, 1, 2⟩, 3, 4, 5⟩, 600000, some 3600⟩⟩ := by
  decide +kernel

end Timestamp

end FormCheck.Markup
