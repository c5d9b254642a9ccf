namespace FormCheck.Text

/-!
# Decimal digits

Numbers may be written with the decimal digits of any script. Each script has
its ten digits in one run, so the table holds the first code point of each run.
-/

/-- Code points of the digits zero, in ascending order. -/
def zeroCodes : List Nat :=
  [0x0030, 0x0660, 0x06F0, 0x07C0, 0x0966, 0x09E6, 0x0A66, 0x0AE6, 0x0B66,
   0x0BE6, 0x0C66, 0x0CE6, 0x0D66, 0x0DE6, 0x0E50, 0x0ED0, 0x0F20, 0x1040,
   0x1090, 0x17E0, 0x1810, 0x1946, 0x19D0, 0x1A80, 0x1A90, 0x1B50, 0x1BB0,
   0x1C40, 0x1C50, 0xA620, 0xA8D0, 0xA900, 0xA9D0, 0xA9F0, 0xAA50, 0xABF0,
   0xFF10, 0x104A0, 0x10D30, 0x11066, 0x110F0, 0x11136, 0x111D0, 0x112F0,
   0x11450, 0x114D0, 0x11650, 0x116C0, 0x11730, 0x118E0, 0x11950, 0x11C50,
   0x11D50, 0x11DA0, 0x16A60, 0x16AC0, 0x16B50, 0x1D7CE, 0x1D7D8, 0x1D7E2,
   0x1D7EC, 0x1D7F6, 0x1E140, 0x1E2F0, 0x1E950, 0x1FBF0]

/-- The value of a decimal digit of any script. -/
def digit? (character : Char) : Option Nat :=
  (zeroCodes.find? fun first =>
    first ≤ character.toNat && character.toNat < first + 10).map
    (character.toNat - ·)

/-- Whether a character is one of the ten digits of ASCII. -/
def isAsciiDigit (character : Char) : Bool :=
  '0' ≤ character && character ≤ '9'

/-- Whether a character is an ASCII letter or digit. -/
def isAsciiAlphanumeric (character : Char) : Bool :=
  isAsciiDigit character ||
    ('A' ≤ character && character ≤ 'Z') ||
    ('a' ≤ character && character ≤ 'z')

/-- The number written by a list of digit values, most significant first. -/
def numberOfDigits (digits : List Nat) : Nat :=
  digits.foldl (fun number digit => 10 * number + digit) 0

/-- The number written by ASCII digits; other characters count by code point. -/
def numberOfAscii (characters : List Char) : Nat :=
  numberOfDigits (characters.map fun character => character.toNat - 48)

example : zeroCodes.length = 66 := rfl

example : digit? '7' = some 7 ∧ digit? '٣' = some 3 ∧ digit? '²' = none := by
  decide

end FormCheck.Text
