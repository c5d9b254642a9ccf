import FormCheck.Text.Printable

namespace FormCheck.Text

/-!
# Quoted text

Texts inside log lines are quoted. The quote is a single one, unless the text
holds a single quote and no double quote. A backslash precedes the quote and
itself, line feed, carriage return and tab have their letters, and any other
character that is not printable is written by its code point in two, four or
eight hexadecimal digits. Bytes are quoted as the characters with their numbers,
of which only those of ASCII stand for themselves.
-/

/-- The last `width` hexadecimal digits of a number. -/
def hexadecimal : Nat → Nat → List Char
  | 0, _ => []
  | width + 1, number =>
      hexadecimal width (number / 16) ++ [Nat.digitChar (number % 16)]

/-- The quote that encloses a text. -/
def delimiterOf (characters : List Char) : Char :=
  if characters.contains '\'' && !characters.contains '"' then '"' else '\''

/-- One character as it is written between two given quotes. -/
def quotedCharacter (delimiter character : Char) : List Char :=
  if character = delimiter || character = '\\' then
    ['\\', character]
  else if character = '\n' then
    ['\\', 'n']
  else if character = '\r' then
    ['\\', 'r']
  else if character = '\t' then
    ['\\', 't']
  else if isPrintable character then
    [character]
  else if character.toNat < 0x100 then
    '\\' :: 'x' :: hexadecimal 2 character.toNat
  else if character.toNat < 0x10000 then
    '\\' :: 'u' :: hexadecimal 4 character.toNat
  else
    '\\' :: 'U' :: hexadecimal 8 character.toNat

/-- Some bytes between quotes. -/
def quotedBytes (octets : List UInt8) : String :=
  let delimiter :=
    delimiterOf (octets.map fun octet => Char.ofNat octet.toNat)
  let written (octet : UInt8) : List Char :=
    if octet < 0x80 then
      quotedCharacter delimiter (Char.ofNat octet.toNat)
    else
      '\\' :: 'x' :: hexadecimal 2 octet.toNat
  String.ofList (delimiter :: octets.flatMap written ++ [delimiter])

/-- A text between quotes. -/
def quoted (text : String) : String :=
  let characters := text.toList
  let delimiter := delimiterOf characters
  String.ofList
    (delimiter :: characters.flatMap (quotedCharacter delimiter) ++ [delimiter])

end FormCheck.Text
