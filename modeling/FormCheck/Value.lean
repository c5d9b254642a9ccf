import FormCheck.Calendar.DateTime
import FormCheck.Number.Double

namespace FormCheck

/-!
# Values

Submitted inputs, arguments of capabilities, plans and plans files are made of
values: texts, numbers, truth values, dates and collections of them. Which of
them a form submits is not known beforehand, so every check takes any value.
-/

/--
A value of any kind. Texts consist of Unicode characters, so none has half of a
surrogate pair. The entries of a mapping keep their order. A cycle is a list or a
mapping that holds itself, where it occurs inside itself.
-/
inductive Value where
  | null
  | bool (truth : Bool)
  | int (number : Int)
  | float (number : Number.Double)
  | text (characters : String)
  | bytes (octets : List UInt8)
  | date (date : Date)
  | dateTime (time : DateTime)
  | list (items : List Value)
  | tuple (items : List Value)
  | set (items : List Value)
  | dict (entries : List (Value × Value))
  | cycle (isMapping : Bool)
deriving Repr

/-- The entries of a mapping, in order. -/
abbrev Entries := List (Value × Value)

instance : Inhabited Value := ⟨.null⟩

/-- A number of either kind. -/
inductive Numeric where
  | int (number : Int)
  | float (number : Number.Double)
deriving Repr, DecidableEq

namespace Numeric

/-- The order of two numbers by their exact values, unless one is no number. -/
def compare? : Numeric → Numeric → Option Ordering
  | .int left, .int right => some (compare left right)
  | .int left, .float right => Number.Double.compareInt? left right
  | .float left, .int right =>
      (Number.Double.compareInt? right left).map Ordering.swap
  | .float left, .float right => Number.Double.compare? left right

/-- Whether two numbers are equal, or one and the same that is not a number. -/
def same : Numeric → Numeric → Bool
  | .float (.nan left), .float (.nan right) => left = right
  | left, right => left.compare? right = some .eq

end Numeric

namespace Value

/-- The number that a value is. A truth value counts as zero or one. -/
def number? : Value → Option Numeric
  | .bool truth => some (.int (if truth then 1 else 0))
  | .int number => some (.int number)
  | .float number => some (.float number)
  | _ => none

/-- The name of the kind of a value. -/
def kindName : Value → String
  | .null => "NoneType"
  | .bool _ => "bool"
  | .int _ => "int"
  | .float _ => "float"
  | .text _ => "str"
  | .bytes _ => "bytes"
  | .date _ => "date"
  | .dateTime _ => "datetime"
  | .list _ | .cycle false => "list"
  | .tuple _ => "tuple"
  | .set _ => "set"
  | .dict _ | .cycle true => "dict"

/-- Whether a value counts as true where a truth value is expected. -/
def isTruthy : Value → Bool
  | .null => false
  | .bool truth => truth
  | .int number => number ≠ 0
  | .float number => !number.isZero
  | .text characters => characters ≠ ""
  | .bytes octets => !octets.isEmpty
  | .date _ | .dateTime _ | .cycle _ => true
  | .list items | .tuple items | .set items => !items.isEmpty
  | .dict entries => !entries.isEmpty

/-- A value, or another one where the value counts as false. -/
def orElse (value other : Value) : Value :=
  if value.isTruthy then value else other

/-- A value, or another one where there is none. -/
def orDefault (value other : Value) : Value :=
  match value with
  | .null => other
  | present => present

mutual

/-- Whether a value may be a key. Lists, mappings and sets may not. -/
def isHashable : Value → Bool
  | .list _ | .set _ | .dict _ | .cycle _ => false
  | .tuple items => allHashable items
  | _ => true

/-- Whether all of some values may be keys. -/
def allHashable : List Value → Bool
  | [] => true
  | item :: rest => isHashable item && allHashable rest

end

end Value

end FormCheck
