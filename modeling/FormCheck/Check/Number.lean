import FormCheck.Check
import FormCheck.Number.Decimal

namespace FormCheck

/-!
# Numbers

Submitted numbers usually arrive as texts. Every check of this module accepts a
number or a text that writes one, and stores the number. Bounds are inclusive,
and a null bound is none. A short text may write an integer of many digits, by an
exponent; one that does not fit into the memory is a fault.
-/

namespace Value

/-- The decimal number that a submitted value is or writes. -/
def toDecimal? : Value → Option Number.Decimal
  | .int number =>
      if Number.isWritable number then some (.ofInt number) else none
  | .float number => Number.Decimal.ofText? number.text
  | .text characters => Number.Decimal.ofText? characters
  | _ => none

/-- The integer that a submitted value is or writes, whatever its size. -/
def toInt? (value : Value) : Option Int :=
  value.toDecimal?.bind (·.toInt?)

/-- Read the integer that a submitted value is or writes into the memory. -/
def readInteger (memory : Memory) (value : Value) :
    Except Fault (Option Int) :=
  if value.toDecimal?.any (·.exceeds memory.digits) then
    .error .outOfMemory
  else
    .ok value.toInt?

end Value

namespace Check

/-- The largest timestamp, the last second of the year 9999. -/
def maximalTimestamp : Int := 253402300799

/-- Store a value that is an integer. -/
def integer (environment : Environment) (value key : Value) :
    Check Unit := do
  match ← value.readInteger environment.memory with
  | some number => setValue key (.int number)
  | none => reject key "Value must be a valid integer."

/-- Store a value that is a number. -/
def float (value key : Value) : Check Unit :=
  match value.toDecimal? with
  | some number => setValue key (.float (.ofDecimal number))
  | none => reject key "Value must be a valid number."

/-- Record that a value does not lie between two bounds. -/
def rejectBetween (key lower upper : Value) : Check Unit := do
  let lowerText ← lower.shown
  let upperText ← upper.shown
  reject key
    ("Invalid value: Must be between " ++ lowerText ++ " and " ++ upperText ++
      ".")

/-- Whether a number lies within its bounds; if not, that is recorded. -/
def withinBounds (number key lower upper : Value) : Check Bool := do
  match lower, upper with
  | .null, .null => return true
  | .null, upper =>
      if ← upper.less number then
        reject key ("Value must not exceed " ++ (← upper.shown) ++ ".")
        return false
      else
        return true
  | lower, .null =>
      if ← number.less lower then
        reject key ("Value must be at least " ++ (← lower.shown) ++ ".")
        return false
      else
        return true
  | lower, upper =>
      if ← number.less lower then
        rejectBetween key lower upper
        return false
      else if ← upper.less number then
        rejectBetween key lower upper
        return false
      else
        return true

/-- Store a value that is an integer within its bounds. -/
def integerRange (environment : Environment) (value key lower upper : Value) :
    Check Unit := do
  integer environment value key
  unless ← hasErrors key do
    let number ← Check.value key
    if ← withinBounds number key lower upper then
      setValue key number

/-- Store a value that is a number within its bounds. -/
def floatRange (value key lower upper : Value) : Check Unit := do
  float value key
  unless ← hasErrors key do
    let _ ← withinBounds (← Check.value key) key lower upper

/-- Record a message of the caller's, or the given one if there is none. -/
def rejectWith (message key : Value) (fallback : Check Unit) : Check Unit :=
  if message.isTruthy then addError key message else fallback

/--
Store a value that is an integer within its bounds, 1 and 9999 by default. Any
failure has one message, which the caller may choose.
-/
def numberInRange (environment : Environment)
    (value key lower upper message : Value) : Check Unit := do
  let lower := lower.orDefault (.int 1)
  let upper := upper.orDefault (.int 9999)
  let failure : Check Unit :=
    rejectWith message key do
      let lowerText ← lower.shown
      let upperText ← upper.shown
      reject key
        ("Invalid number: Must be between " ++ lowerText ++ " and " ++
          upperText ++ ".")
  match ← value.readInteger environment.memory with
  | none => failure
  | some number =>
      if ← (Value.int number).less lower then
        failure
      else if ← upper.less (.int number) then
        failure
      else
        setValue key (.int number)

/-- Store an integer within its bounds, which are clamped to given ones. -/
def clampedRange (environment : Environment) (value key lower upper : Value)
    (least greatest : Int) : Check Unit := do
  let lower ← (Value.int least).greaterOf lower
  let upper ← (Value.int greatest).lesserOf upper
  integerRange environment value key lower upper

/-- Store a short program number, within bounds clamped to 1 and 999. -/
def shortProgramNumber (environment : Environment)
    (value key lower upper : Value) : Check Unit :=
  clampedRange environment value key (lower.orDefault (.int 1))
    (upper.orDefault (.int 999)) 1 999

/-- Store an application number, a positive integer. -/
def applicationNumber (environment : Environment) (value key : Value) :
    Check Unit :=
  integerRange environment value key (.int 1) .null

/-- Store a timestamp, within bounds clamped to the calendar. -/
def timestamp (environment : Environment) (value key lower upper : Value) :
    Check Unit :=
  clampedRange environment value key lower upper 0 maximalTimestamp

end Check

end FormCheck
