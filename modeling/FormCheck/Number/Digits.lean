import FormCheck.Fault

namespace FormCheck.Number

/-!
# Decimal text of integers

An integer is written in decimal, unless it has more than 4300 digits: such a
number is refused rather than written.
-/

-- The powers below are those of the core library.
attribute [local instance (high)] instPowNat

/-- The most digits that an integer may have to be written in decimal. -/
def digitLimit : Nat := 4300

/-- The decimal digits of a natural number. -/
def naturalDigits (number : Nat) : List Char :=
  Nat.toDigits 10 number

/-- The decimal characters of an integer, a minus sign first if negative. -/
def integerDigits (number : Int) : List Char :=
  if number < 0 then
    '-' :: naturalDigits number.natAbs
  else
    naturalDigits number.natAbs

/-- Whether an integer is short enough to be written in decimal. -/
def isWritable (number : Int) : Bool :=
  number.natAbs < 10 ^ digitLimit

/-- The decimal text of an integer. -/
def integerText (number : Int) : Except Fault String :=
  if isWritable number then
    .ok (String.ofList (integerDigits number))
  else
    .error .tooManyDigits

end FormCheck.Number
