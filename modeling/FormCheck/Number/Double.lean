import FormCheck.Number.Decimal

namespace FormCheck.Number

/-!
# Floating-point numbers

A floating-point number has a sign, a significand of at most 53 binary digits
and a power of two, or it is infinite, or it is not a number. Numbers are kept
exactly; where a result does not fit it is rounded to the nearest number, and
to the one with the even significand when two are equally near. What is not a
number is in no order, but it has a mark by which it can be found again.
-/

-- The powers below are those of the core library.
attribute [local instance (high)] instPowNat

/--
A floating-point number. A finite one is `± significand · 2 ^ exponent`, where
the exponent is the least one, at least -1074, for which the significand has at
most 53 binary digits.
-/
inductive Double where
  | finite (negative : Bool) (significand : Nat) (exponent : Int)
  | infinite (negative : Bool)
  | nan (mark : Nat)
deriving Repr, DecidableEq

namespace Double

/-- The binary digits of a significand. -/
def precision : Nat := 53

/-- The least power of two of a finite number. -/
def leastExponent : Int := -1074

/-- The greatest power of two of a finite number. -/
def greatestExponent : Int := 971

/-- Zero with a sign. -/
def zeroOf (negative : Bool) : Double :=
  .finite negative 0 leastExponent

/-- The quotient of two naturals, rounded to the nearest, halves to the even. -/
def roundedQuotient (numerator denominator : Nat) : Nat :=
  let quotient := numerator / denominator
  let twice := 2 * (numerator % denominator)
  if twice < denominator then
    quotient
  else if denominator < twice then
    quotient + 1
  else
    quotient + quotient % 2

/-- A finite number from a significand that may have become too long. -/
def carried (negative : Bool) (significand : Nat) (exponent : Int) : Double :=
  let (significand, exponent) :=
    if significand = 2 ^ precision then
      (2 ^ (precision - 1), exponent + 1)
    else
      (significand, exponent)
  if greatestExponent < exponent then
    .infinite negative
  else
    .finite negative significand exponent

/-- The power of two that the last digit of a quotient of naturals has. -/
def quotientExponent (numerator denominator : Nat) : Int :=
  let estimate : Int :=
    (Nat.log2 numerator : Int) - Nat.log2 denominator - precision
  let long :=
    if 0 ≤ estimate then
      2 ^ precision * (denominator * 2 ^ estimate.toNat) ≤ numerator
    else
      2 ^ precision * denominator ≤ numerator * 2 ^ (-estimate).toNat
  max leastExponent (if long then estimate + 1 else estimate)

/-- The number nearest to a quotient of naturals. -/
def ofQuotient (negative : Bool) (numerator denominator : Nat) : Double :=
  if numerator = 0 then
    zeroOf negative
  else
    let exponent := quotientExponent numerator denominator
    let significand :=
      if 0 ≤ exponent then
        roundedQuotient numerator (denominator * 2 ^ exponent.toNat)
      else
        roundedQuotient (numerator * 2 ^ (-exponent).toNat) denominator
    carried negative significand exponent

/-- The number nearest to `± significand · 2 ^ exponent`. -/
def ofBinary (negative : Bool) (significand : Nat) (exponent : Int) : Double :=
  if 0 ≤ exponent then
    ofQuotient negative (significand * 2 ^ exponent.toNat) 1
  else
    ofQuotient negative significand (2 ^ (-exponent).toNat)

/-- The number nearest to a decimal number. -/
def ofDecimal (number : Decimal) : Double :=
  if number.coefficient = 0 then
    zeroOf number.negative
  else if 400 < number.adjustedExponent then
    .infinite number.negative
  else if number.adjustedExponent < -400 then
    zeroOf number.negative
  else if 0 ≤ number.exponent then
    ofQuotient number.negative
      (number.coefficient * 10 ^ number.exponent.toNat) 1
  else
    ofQuotient number.negative number.coefficient
      (10 ^ (-number.exponent).toNat)

/-- Whether a number is zero, of either sign. -/
def isZero : Double → Bool
  | .finite _ significand _ => significand = 0
  | _ => false

/-- The signed significand of a finite number at a power of two below its own. -/
def scaledTo (negative : Bool) (significand : Nat) (exponent base : Int) : Int :=
  let size : Int := significand * 2 ^ (exponent - base).toNat
  if negative then -size else size

/-- The order of two numbers, unless one of them is not a number. -/
def compare? : Double → Double → Option Ordering
  | .nan _, _ => none
  | _, .nan _ => none
  | .infinite left, .infinite right => some (compare right.toNat left.toNat)
  | .infinite negative, _ => some (if negative then .lt else .gt)
  | _, .infinite negative => some (if negative then .gt else .lt)
  | .finite leftSign left leftExponent, .finite rightSign right rightExponent =>
      let base := min leftExponent rightExponent
      some (compare (scaledTo leftSign left leftExponent base)
        (scaledTo rightSign right rightExponent base))

/-- The order of an integer and a number, unless that is not a number. -/
def compareInt? (integer : Int) (number : Double) : Option Ordering :=
  match number with
  | .finite negative significand exponent =>
      let base := min 0 exponent
      some (compare (integer * 2 ^ (-base).toNat)
        (scaledTo negative significand exponent base))
  | .infinite negative => some (if negative then .gt else .lt)
  | .nan _ => none

/-- Whether a number has a minus sign. -/
def isNegative : Double → Bool
  | .finite negative _ _ => negative
  | .infinite negative => negative
  | .nan _ => false

/-- A number, with the given mark if it is none. -/
def marked (mark : Nat) : Double → Double
  | .nan _ => .nan mark
  | number => number

/-- The number with the other sign. -/
def negated : Double → Double
  | .finite negative significand exponent =>
      .finite (!negative) significand exponent
  | .infinite negative => .infinite (!negative)
  | .nan mark => .nan mark

/-- The sum of two numbers, rounded. -/
def add : Double → Double → Double
  | .nan mark, _ => .nan mark
  | _, .nan mark => .nan mark
  | .infinite left, .infinite right =>
      if left = right then .infinite left else .nan 0
  | .infinite negative, _ => .infinite negative
  | _, .infinite negative => .infinite negative
  | .finite leftSign left leftExponent, .finite rightSign right rightExponent =>
      let base := min leftExponent rightExponent
      let sum := scaledTo leftSign left leftExponent base +
        scaledTo rightSign right rightExponent base
      if sum = 0 then
        zeroOf (leftSign && rightSign)
      else
        ofBinary (sum < 0) sum.natAbs base

/-- The product of two numbers, rounded. -/
def multiply : Double → Double → Double
  | .nan mark, _ => .nan mark
  | _, .nan mark => .nan mark
  | .finite leftSign left leftExponent, .finite rightSign right rightExponent =>
      ofBinary (leftSign ^^ rightSign) (left * right)
        (leftExponent + rightExponent)
  | left, right =>
      if left.isZero || right.isZero then
        .nan 0
      else
        .infinite (left.isNegative ^^ right.isNegative)

/-- The number nearest to an integer. -/
def ofInt (number : Int) : Double :=
  ofQuotient (number < 0) number.natAbs 1

/-- The integer part of a finite number. -/
def truncated? : Double → Option Int
  | .finite negative significand exponent =>
      let size : Nat :=
        if 0 ≤ exponent then
          significand * 2 ^ exponent.toNat
        else
          significand / 2 ^ (-exponent).toNat
      some (if negative then -(size : Int) else (size : Int))
  | _ => none

end Double

end FormCheck.Number
