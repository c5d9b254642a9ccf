namespace FormCheck.Text.Base64

/-!
# Bytes in base 64

Four digits to the base 64 write three bytes. Signs of equality fill up the last
group: with two digits two of them, with three digits one. The text ends there.
Other characters stand between the digits without a meaning.
-/

-- The powers below are those of the core library.
attribute [local instance (high)] instPowNat

/-- The value of a digit. -/
def digit? (character : Char) : Option Nat :=
  if 'A' ≤ character ∧ character ≤ 'Z' then
    some (character.toNat - 65)
  else if 'a' ≤ character ∧ character ≤ 'z' then
    some (character.toNat - 71)
  else if '0' ≤ character ∧ character ≤ '9' then
    some (character.toNat + 4)
  else if character = '+' then
    some 62
  else if character = '/' then
    some 63
  else
    none

/-- The byte that ends with the first bits of a digit at a place in its group. -/
def byte (place held digit : Nat) : UInt8 :=
  UInt8.ofNat (held * 4 ^ place + digit / 4 ^ (3 - place))

/-- The bits of a digit at a place in its group that belong to the next byte. -/
def kept (place digit : Nat) : Nat :=
  digit % 4 ^ (3 - place)

/--
The bytes that some characters write, given how many digits of their group and
how many fillings are read, and the bits that belong to the next byte.
-/
def decodeFrom (place fillings held : Nat) : List Char → Option (List UInt8)
  | [] => if place = 0 then some [] else none
  | character :: rest =>
      if character = '=' then
        if place < 2 then
          decodeFrom place fillings held rest
        else if 4 ≤ place + fillings + 1 then
          some []
        else
          decodeFrom place (fillings + 1) held rest
      else
        match digit? character with
        | none => decodeFrom place fillings held rest
        | some digit =>
            if place = 0 then
              decodeFrom 1 0 digit rest
            else
              (decodeFrom ((place + 1) % 4) 0 (kept place digit) rest).map
                (byte place held digit :: ·)

/-- The bytes that some characters write. -/
def decode? (characters : List Char) : Option (List UInt8) :=
  decodeFrom 0 0 0 characters

example : decode? "aGk=".toList = some [104, 105] := by decide

end FormCheck.Text.Base64
