import FormCheck.Markup.Tag
import FormCheck.Number.Numeral
import FormCheck.Text.Base64
import FormCheck.Text.Split
import FormCheck.Value

namespace FormCheck.Markup.Scalar

/-!
# Values of scalars

The content of a scalar is read by the rule of its tag. Numbers may have
underscores between their digits and parts to the base sixty; the first digits
of an integer tell whether its base is two, eight, ten or sixteen. What is not a
number is marked by the place of its scalar, unless it is written by its own
sign, which means one and the same everywhere.
-/

-- The powers below are those of the core library.
attribute [local instance (high)] instPowNat

/-- Refuse a content that has no first character. -/
def nonEmpty (characters : List Char) : Except Fault (List Char) :=
  if characters.isEmpty then .error .emptySequence else .ok characters

/-- The parts of some characters between colons. -/
def parts (characters : List Char) : List (List Char) :=
  Text.splitAt ':' characters

/-- The natural number that characters without underscores write. -/
def natural (characters : List Char) : Except Fault Int :=
  match characters with
  | ['0'] => .ok 0
  | '0' :: 'b' :: digits => Number.numeral 2 digits
  | '0' :: 'x' :: digits => Number.numeral 16 digits
  | '0' :: _ => Number.numeral 8 characters
  | _ =>
      if characters.contains ':' then
        (parts characters).foldlM
          (fun number part => do
            return 60 * number + (← Number.numeral 10 part))
          0
      else
        Number.numeral 10 characters

/-- The integer that some characters write. -/
def integer (characters : List Char) : Except Fault Int := do
  let signed ← nonEmpty (characters.filter (· ≠ '_'))
  let size ← natural (← nonEmpty (Tag.withoutSign signed))
  return if signed.head? = some '-' then -size else size

/-- The floating-point number that a literal writes. -/
def literal (characters : List Char) : Except Fault Number.Double :=
  let stripped := Text.stripped characters
  let negative := stripped.head? = some '-'
  let word := String.ofList (Tag.withoutSign stripped)
  if word = "inf" || word = "infinity" then
    .ok (.infinite negative)
  else if word = "nan" then
    .ok (.nan 0)
  else
    match Number.Decimal.signed? (stripped.map Number.Decimal.plainCharacter) with
    | some number => .ok (.ofDecimal number)
    | none => .error .notNumeral

/-- How much a part to the base sixty counts that others follow. -/
def weight (following : Nat) : Except Fault Number.Double :=
  match Number.Double.ofInt (60 ^ following) with
  | .infinite _ => .error .tooLarge
  | weight => .ok weight

/-- The sum of numbers, of which each counts sixty times the one behind it. -/
def sexagesimal (numbers : List Number.Double) : Except Fault Number.Double :=
  numbers.reverse.zipIdx.foldlM
    (fun sum place => do
      return sum.add (place.1.multiply (← weight place.2)))
    (.zeroOf false)

/-- The floating-point number that characters without a sign write. -/
def unsignedFloat (characters : List Char) : Except Fault Number.Double := do
  if characters.contains ':' then
    sexagesimal (← (parts characters).mapM literal)
  else
    literal characters

/-- The floating-point number that the scalar at a place writes. -/
def float (characters : List Char) (place : Nat) :
    Except Fault Number.Double := do
  let kept := (characters.filter (· ≠ '_')).map Char.toLower
  let signed ← nonEmpty kept
  let isNegative := signed.head? = some '-'
  let unsigned := Tag.withoutSign signed
  if unsigned = ".inf".toList then
    return .infinite isNegative
  else if unsigned = ".nan".toList then
    return .nan 0
  else
    let number := (← unsignedFloat unsigned).marked (place + 1)
    return if isNegative then number.negated else number

/-- The truth value that a word means. -/
def truth (content : String) : Except Fault Bool :=
  let word := String.ofList (content.toList.map Char.toLower)
  if ["yes", "true", "on"].contains word then
    .ok true
  else if ["no", "false", "off"].contains word then
    .ok false
  else
    .error .missingKey

/-- The date, or the date and the time, that some characters write. -/
def timestamp (characters : List Char) : Except Fault Value :=
  match Timestamp.ofCharacters? (Tag.withoutLastBreak characters) with
  | none => .error .noSuchOperation
  | some written =>
      if written.isActual then
        .ok (match written.time with
          | none => .date written.date
          | some time => .dateTime time)
      else
        .error .nonexistent

/-- The bytes that some characters of ASCII write. -/
def bytes (characters : List Char) : Except Fault Value :=
  if characters.all (·.toNat < 0x80) then
    match Text.Base64.decode? characters with
    | some octets => .ok (.bytes octets)
    | none => refuse "bytes are not written to the base 64"
  else
    refuse "bytes are not written in ASCII"

/-- The value of the scalar at a place, which has a tag. -/
def value (tag : Tag) (content : String) (place : Nat) :
    Except Fault Value := do
  let characters := content.toList
  match tag with
  | .null => return .null
  | .bool => return .bool (← truth content)
  | .int => return .int (← integer characters)
  | .float => return .float (← float characters place)
  | .text => return .text content
  | .bytes => bytes characters
  | .timestamp => timestamp characters
  | _ => refuse "a scalar has a tag that gives it no value"

end FormCheck.Markup.Scalar
