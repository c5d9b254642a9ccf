import FormCheck.Fault
import FormCheck.Value.Equality
import FormCheck.Value.Sorting

namespace FormCheck

/-!
# Order of values

Numbers are ordered by size, texts by code points, bytes by their numbers, dates
by time, lists and tuples by their first unequal members, sets by inclusion.
Values of different kinds have no order, and asking for it is a fault.
-/

namespace Value

/-- The order of two values without members, if they have one. -/
def lessPlain? (left right : Value) : Option Bool :=
  match left, right with
  | .bytes left, .bytes right => some (left < right)
  | .date left, .date right => some (left.before right)
  | .dateTime left, .dateTime right =>
      (left.compare? right).map fun order => order = .lt
  | left, right =>
      match left.number?, right.number? with
      | some left, some right => some (left.compare? right = some .lt)
      | _, _ => none

mutual

/-- Whether a value comes strictly before another. -/
def less : Value → Value → Except Fault Bool
  | .text left, .text right => .ok (left.toList < right.toList)
  | .list left, .list right => lessItems left right
  | .tuple left, .tuple right => lessItems left right
  | .set left, .set right =>
      .ok (left.length < right.length && allAmong left right)
  | left, right =>
      match lessPlain? left right with
      | some isLess => .ok isLess
      | none => .error .unordered
termination_by structural value => value

/-- The order of two lists, decided by their first unequal members. -/
def lessItems : List Value → List Value → Except Fault Bool
  | _, [] => .ok false
  | [], _ :: _ => .ok true
  | left :: lefts, right :: rights =>
      if same left right then lessItems lefts rights else less left right
termination_by structural items => items

end

/-- The greater of two values; the first if the second is not greater. -/
def greaterOf (first second : Value) : Except Fault Value := do
  return if ← less first second then second else first

/-- The lesser of two values; the first if the second is not less. -/
def lesserOf (first second : Value) : Except Fault Value := do
  return if ← less second first then second else first

/-- Whether two values have an order. -/
def areComparable (first second : Value) : Bool :=
  match first, second with
  | .text _, .text _ => true
  | first, second => (less first second).isOk

/-- Whether every two of some values have an order. -/
def allComparable : List Value → Bool
  | [] => true
  | value :: rest => rest.all (areComparable value) && allComparable rest

/-- Whether a value comes strictly before another, if they have an order. -/
def precedes (first second : Value) : Bool :=
  match less first second with
  | .ok isLess => isLess
  | .error _ => false

/-- The values in ascending order, unless two of them have none. -/
def sorted (values : List Value) : Except Fault (List Value) :=
  if allComparable values then
    .ok (Sorting.sort precedes values)
  else
    .error .unordered

end Value

end FormCheck
