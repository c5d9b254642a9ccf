import FormCheck.Number.Digits
import FormCheck.Text.Blank
import FormCheck.Text.Digit

namespace FormCheck.Number

/-!
# Integer numerals

A numeral is an optional sign and digits of a base, with blanks around it and
single underscores between the digits. The digits of bases two, eight and
sixteen may follow the mark of the base. Decimal numerals may use the digits of
any script, but no more of them than an integer may have to be written.
-/

/-- The value of a digit of a base up to sixteen. -/
def digitInBase? (base : Nat) (character : Char) : Option Nat :=
  let digit? :=
    match Text.digit? character with
    | some digit => some digit
    | none =>
        if 'a' ≤ character ∧ character ≤ 'f' then
          some (character.toNat - 87)
        else if 'A' ≤ character ∧ character ≤ 'F' then
          some (character.toNat - 55)
        else
          none
  digit?.filter (· < base)

/-- Digit values, with at most one underscore before each but the first. -/
def digitsInBase? (base : Nat) : List Char → Option (List Nat)
  | [] => some []
  | '_' :: character :: rest => do
      let digit ← digitInBase? base character
      let digits ← digitsInBase? base rest
      return digit :: digits
  | character :: rest => do
      let digit ← digitInBase? base character
      let digits ← digitsInBase? base rest
      return digit :: digits

/-- The characters without the mark of a base. -/
def withoutBaseMark (base : Nat) (characters : List Char) : List Char :=
  match base, characters with
  | 2, '0' :: 'b' :: rest => rest
  | 2, '0' :: 'B' :: rest => rest
  | 8, '0' :: 'o' :: rest => rest
  | 8, '0' :: 'O' :: rest => rest
  | 16, '0' :: 'x' :: rest => rest
  | 16, '0' :: 'X' :: rest => rest
  | _, characters => characters

/-- The natural number that unsigned characters write in a base. -/
def unsignedNumeral (base : Nat) (characters : List Char) :
    Except Fault Nat :=
  let body := withoutBaseMark base characters
  let marked := body.length < characters.length
  if body.isEmpty || (body.head? = some '_' && !marked) then
    .error .notNumeral
  else
    match digitsInBase? base body with
    | none => .error .notNumeral
    | some digits =>
        if base = 10 ∧ digitLimit < digits.length then
          .error .tooManyDigits
        else
          .ok (digits.foldl (fun number digit => base * number + digit) 0)

/-- The integer that a numeral writes in a base. -/
def numeral (base : Nat) (characters : List Char) : Except Fault Int :=
  match Text.stripped characters with
  | '-' :: rest => (unsignedNumeral base rest).map fun size => -(size : Int)
  | '+' :: rest => (unsignedNumeral base rest).map fun size => (size : Int)
  | rest => (unsignedNumeral base rest).map fun size => (size : Int)

end FormCheck.Number
