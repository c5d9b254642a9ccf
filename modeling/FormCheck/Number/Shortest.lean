import FormCheck.Number.Double

namespace FormCheck.Number

/-!
# Shortest decimal text of a floating-point number

A finite number is written with the fewest significant digits that read back
as the same number, and of these with the digits nearest to its value. The text
is positional, with at least one digit after the point, if the exponent of the
leading digit lies between -4 and 15; otherwise it has an exponent of at least
two digits.
-/

-- The powers below are those of the core library.
attribute [local instance (high)] instPowNat

namespace Double

/--
The decimals that round to a finite number, as an interval around the number:
all three are multiples of `2 ^ (exponent - 2)`.
-/
structure RoundingInterval where
  lower : Nat
  value : Nat
  upper : Nat
  closed : Bool
deriving Repr, DecidableEq

/-- The rounding interval of a positive number. -/
def roundingInterval (significand : Nat) (exponent : Int) : RoundingInterval :=
  let gapBelow :=
    if significand = 2 ^ (precision - 1) ∧ leastExponent < exponent then 1
    else 2
  ⟨4 * significand - gapBelow, 4 * significand, 4 * significand + 2,
    significand % 2 = 0⟩

/-- Whether a multiple of a unit lies in an interval, all at one scale. -/
def RoundingInterval.admits (interval : RoundingInterval) (point : Nat) : Bool :=
  if interval.closed then
    interval.lower ≤ point && point ≤ interval.upper
  else
    interval.lower < point && point < interval.upper

/-- The interval with its ends and its value multiplied. -/
def RoundingInterval.scaled (interval : RoundingInterval) (factor : Nat) :
    RoundingInterval :=
  { interval with
    lower := interval.lower * factor
    value := interval.value * factor
    upper := interval.upper * factor }

/--
The neighbours of the value on the grid of multiples of a unit that lie in the
interval; of two, the nearer one, and of two equally near, the even one.
-/
def gridPoint? (interval : RoundingInterval) (unit : Nat) : Option Nat :=
  let below := interval.value / unit
  let above := below + 1
  match interval.admits (below * unit), interval.admits (above * unit) with
  | false, false => none
  | true, false => some below
  | false, true => some above
  | true, true =>
      let distanceBelow := interval.value - below * unit
      let distanceAbove := above * unit - interval.value
      if distanceBelow < distanceAbove then some below
      else if distanceAbove < distanceBelow then some above
      else if below % 2 = 0 then some below
      else some above

/-- The point of the grid of multiples of `10 ^ place` to be written, if any. -/
def pointAt? (interval : RoundingInterval) (binary place : Int) : Option Nat :=
  let scale := if 0 ≤ binary then 2 ^ binary.toNat else 1
  let unit := if 0 ≤ binary then 1 else 2 ^ (-binary).toNat
  if 0 ≤ place then
    gridPoint? (interval.scaled scale) (unit * 10 ^ place.toNat)
  else
    gridPoint? (interval.scaled (scale * 10 ^ (-place).toNat)) unit

/-- Search from a coarse grid to finer ones, for a limited number of grids. -/
def shortestFrom (interval : RoundingInterval) (binary : Int) :
    Nat → Int → Nat × Int
  | 0, place => (0, place)
  | grids + 1, place =>
      match pointAt? interval binary place with
      | some point => (point, place)
      | none => shortestFrom interval binary grids (place - 1)

/--
The shortest decimal of a positive number, as digits and the place of the last.
The search starts above the leading digit, whose place is at most one more than
three tenths of the binary one, and seventeen significant digits always do.
-/
def shortest (significand : Nat) (exponent : Int) : Nat × Int :=
  let binary : Int := exponent + Nat.log2 significand
  shortestFrom (roundingInterval significand exponent) (exponent - 2) 24
    (binary * 30103 / 100000 + 2)

/-- The exponent as it is appended to a number in exponent form. -/
def exponentSuffix (exponent : Int) : List Char :=
  let digits := naturalDigits exponent.natAbs
  'e' :: (if exponent < 0 then '-' else '+') ::
    (if digits.length < 2 then '0' :: digits else digits)

/-- Text of digits whose last one stands at a power of ten. -/
def placed (digits : List Char) (place : Int) : List Char :=
  let leading : Int := place + digits.length - 1
  if leading < -4 ∨ 16 ≤ leading then
    let mantissa :=
      match digits with
      | [digit] => [digit]
      | digit :: rest => digit :: '.' :: rest
      | [] => []
    mantissa ++ exponentSuffix leading
  else if 0 ≤ place then
    digits ++ List.replicate place.toNat '0' ++ ['.', '0']
  else if leading < 0 then
    '0' :: '.' :: List.replicate (-leading - 1).toNat '0' ++ digits
  else
    digits.take (leading + 1).toNat ++ '.' :: digits.drop (leading + 1).toNat

/-- Drop the zeros at the end of a number, counting them into its place. -/
def withoutTrailingZeros : List Char → Int → List Char × Int
  | '0' :: rest, place => withoutTrailingZeros rest (place + 1)
  | digits, place => (digits, place)

/-- The text of a floating-point number. -/
def text : Double → String
  | .nan _ => "nan"
  | .infinite negative => if negative then "-inf" else "inf"
  | .finite negative significand exponent =>
      let body :=
        if significand = 0 then
          ['0', '.', '0']
        else
          let (digits, place) := shortest significand exponent
          let (reversed, place) :=
            withoutTrailingZeros (naturalDigits digits).reverse place
          placed reversed.reverse place
      String.ofList (if negative then '-' :: body else body)

end Double

end FormCheck.Number
