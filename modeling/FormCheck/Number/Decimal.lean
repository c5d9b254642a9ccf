import FormCheck.Number.Digits
import FormCheck.Text.Blank
import FormCheck.Text.Digit

namespace FormCheck.Number

/-!
# Decimal numbers

A submitted number is read exactly, as a sign, a coefficient and a power of
ten. The literal is an optional sign, digits with an optional point, and an
optional exponent. Blanks around it and underscores inside it do not count,
and the digits may be those of any script. Infinities and other words that are
no numbers are refused, as are exponents beyond the limits of the format.
-/

-- The powers below are those of the core library.
attribute [local instance (high)] instPowNat

/-- The number `± coefficient · 10 ^ exponent`. -/
structure Decimal where
  negative : Bool
  coefficient : Nat
  exponent : Int
deriving Repr, DecidableEq

namespace Decimal

/-- The largest exponent of the leading digit of a number. -/
def maximalExponent : Int := 999999999999999999

/-- The smallest exponent of the leading digit of a number of full precision. -/
def minimalExponent : Int := -999999999999999999

/-- The smallest exponent of the last digit of any number. -/
def minimalLastExponent : Int := -1999999999999999997

/-- The exponent of the leading digit. -/
def adjustedExponent (number : Decimal) : Int :=
  number.exponent + ((naturalDigits number.coefficient).length - 1 : Nat)

/-- Whether a number lies within the limits of the format without rounding. -/
def isRepresentable (number : Decimal) : Bool :=
  if number.coefficient = 0 then
    minimalLastExponent ≤ number.exponent && number.exponent ≤ maximalExponent
  else
    number.adjustedExponent ≤ maximalExponent &&
      (minimalExponent ≤ number.adjustedExponent ||
        minimalLastExponent ≤ number.exponent)

/--
The literal with every digit written in ASCII. A character outside ASCII that
is no digit has no place in a literal and becomes a question mark.
-/
def plainCharacter (character : Char) : Char :=
  if character.toNat < 0x80 then
    character
  else
    match Text.digit? character with
    | some digit => Nat.digitChar digit
    | none => '?'

/-- The exponent part of a literal, from its letter on; nothing means zero. -/
def exponent? : List Char → Option Int
  | [] => some 0
  | letter :: rest =>
      if letter = 'e' || letter = 'E' then
        let (negative, digits) :=
          match rest with
          | '-' :: digits => (true, digits)
          | '+' :: digits => (false, digits)
          | digits => (false, digits)
        if digits.isEmpty || !digits.all Text.isAsciiDigit then
          none
        else
          let size : Int := Text.numberOfAscii digits
          some (if negative then -size else size)
      else
        none

/-- An unsigned literal: digits with an optional point, then the exponent. -/
def unsigned? (negative : Bool) (characters : List Char) : Option Decimal :=
  let whole := characters.takeWhile Text.isAsciiDigit
  let (fraction, rest) :=
    match characters.dropWhile Text.isAsciiDigit with
    | '.' :: rest =>
        (rest.takeWhile Text.isAsciiDigit, rest.dropWhile Text.isAsciiDigit)
    | rest => ([], rest)
  if whole.isEmpty && fraction.isEmpty then
    none
  else
    (exponent? rest).map fun exponent =>
      ⟨negative, Text.numberOfAscii (whole ++ fraction),
        exponent - fraction.length⟩

/-- A literal with an optional sign. -/
def signed? : List Char → Option Decimal
  | '-' :: rest => unsigned? true rest
  | '+' :: rest => unsigned? false rest
  | rest => unsigned? false rest

/-- The number that a text writes, if it writes one within the limits. -/
def ofText? (text : String) : Option Decimal :=
  let characters := Text.stripped text.toList
  let plain := (characters.filter (· ≠ '_')).map plainCharacter
  (signed? plain).filter isRepresentable

/-- The number that an integer is. -/
def ofInt (number : Int) : Decimal :=
  ⟨number < 0, number.natAbs, 0⟩

/-- The size of a number that is an integer; nothing for one that is not. -/
def magnitude? (number : Decimal) : Option Nat :=
  if number.coefficient = 0 then
    some 0
  else if 0 ≤ number.exponent then
    some (number.coefficient * 10 ^ number.exponent.toNat)
  else
    let places := (-number.exponent).toNat
    if (naturalDigits number.coefficient).length ≤ places then
      none
    else if number.coefficient % 10 ^ places = 0 then
      some (number.coefficient / 10 ^ places)
    else
      none

/-- The integer that a number is, if it is one. -/
def toInt? (number : Decimal) : Option Int :=
  number.magnitude?.map fun size =>
    if number.negative then -(size : Int) else (size : Int)

/--
Whether a number is an integer of more than some number of digits. This can be told
without writing out its zeros.
-/
def exceeds (number : Decimal) (digits : Nat) : Bool :=
  number.coefficient ≠ 0 && digits ≤ number.adjustedExponent &&
    (0 ≤ number.exponent || number.magnitude?.isSome)

/-- The exponent as it is appended to a number in exponent form. -/
def exponentText (exponent : Int) : List Char :=
  'E' :: (if exponent < 0 then [] else ['+']) ++ integerDigits exponent

/--
The text of a number. It is positional if the last digit is no higher than the
units and at most five zeros follow the point; otherwise one digit precedes the
point and an exponent follows. The digits are those of the coefficient, so
trailing zeros are kept.
-/
def text (number : Decimal) : String :=
  let digits := naturalDigits number.coefficient
  let size : Int := digits.length
  let point : Int := number.exponent + size
  let sign := if number.negative then ['-'] else []
  let body :=
    if number.exponent ≤ 0 ∧ -6 < point then
      if point ≤ 0 then
        '0' :: '.' :: List.replicate (-point).toNat '0' ++ digits
      else if point = size then
        digits
      else
        digits.take point.toNat ++ '.' :: digits.drop point.toNat
    else
      let mantissa :=
        match digits with
        | [digit] => [digit]
        | digit :: rest => digit :: '.' :: rest
        | [] => []
      mantissa ++ exponentText (point - 1)
  String.ofList (sign ++ body)

end Decimal

end FormCheck.Number
