import FormCheck.Markup.Scalar.Timestamp

namespace FormCheck.Markup

/-!
# Tags of nodes

The tag of a node says what it is read as. A plain scalar without a tag is read
as what it looks like: a truth value, a number, a date, nothing, the sign of a
merge, or else a text.
-/

/--
What a node is read as. The entries of the value of a key `merge` are merged into
the mapping, and the value of a key `standIn` is the text that stands for it.
-/
inductive Tag where
  | null
  | bool
  | int
  | float
  | text
  | bytes
  | timestamp
  | sequence
  | mapping
  | set
  | pairs
  | merge
  | standIn
  | unknown
deriving Repr, DecidableEq

namespace Tag

/-- What the full names of the standard tags begin with. -/
def standardPrefix : String := "tag:yaml.org,2002:"

/-- The standard tags by the ends of their names. -/
def standard : List (String × Tag) :=
  [("null", .null), ("bool", .bool), ("int", .int), ("float", .float),
    ("str", .text), ("binary", .bytes), ("timestamp", .timestamp),
    ("seq", .sequence), ("map", .mapping), ("set", .set), ("pairs", .pairs),
    ("omap", .pairs), ("merge", .merge), ("value", .standIn)]

/-- The tag with a full name. -/
def ofName (name : String) : Tag :=
  ((standard.find? fun entry => standardPrefix ++ entry.1 = name).map
    Prod.snd).getD .unknown

/-- The words that are read as truth values. -/
def booleanWords : List String :=
  ["yes", "Yes", "YES", "no", "No", "NO", "true", "True", "TRUE", "false",
    "False", "FALSE", "on", "On", "ON", "off", "Off", "OFF"]

/-- The words that are read as nothing. -/
def nullWords : List String := ["~", "null", "Null", "NULL", ""]

/-- Whether a character is a decimal digit or an underscore. -/
def isDecimalCharacter (character : Char) : Bool :=
  character.isDigit || character = '_'

/-- Some characters behind the sign that they may begin with. -/
def withoutSign : List Char → List Char
  | '+' :: rest => rest
  | '-' :: rest => rest
  | characters => characters

/-- Whether some characters are parts to the base sixty, each behind a colon. -/
def isSexagesimalTail : List Char → Bool
  | [':', digit] => digit.isDigit
  | ':' :: first :: second :: rest =>
      first.isDigit &&
        (if second = ':' then
          isSexagesimalTail (second :: rest)
        else
          first ≤ '5' && second.isDigit &&
            (rest.isEmpty || isSexagesimalTail rest))
  | _ => false

/-- Whether some characters write an integer in decimal or to the base sixty. -/
def looksDecimal : List Char → Bool
  | ['0'] => true
  | first :: rest =>
      let parts := rest.dropWhile isDecimalCharacter
      first.isDigit && first ≠ '0' &&
        (parts.isEmpty || isSexagesimalTail parts)
  | [] => false

/-- Whether some characters write an unsigned integer. -/
def looksNatural (characters : List Char) : Bool :=
  looksDecimal characters ||
    match characters with
    | '0' :: 'b' :: rest =>
        !rest.isEmpty && rest.all ['0', '1', '_'].contains
    | '0' :: 'x' :: rest =>
        !rest.isEmpty &&
          rest.all fun character =>
            (hexDigit? character).isSome || character = '_'
    | '0' :: rest =>
        !rest.isEmpty &&
          rest.all fun character =>
            ('0' ≤ character && character ≤ '7') || character = '_'
    | _ => false

/-- Whether some characters write an integer. -/
def looksInteger (characters : List Char) : Bool :=
  looksNatural (withoutSign characters)

/-- Whether some characters are nothing or an exponent, which has a sign. -/
def isExponent : List Char → Bool
  | [] => true
  | letter :: sign :: digits =>
      (letter = 'e' || letter = 'E') && (sign = '+' || sign = '-') &&
        !digits.isEmpty && digits.all Char.isDigit
  | _ => false

/-- Whether some characters write a number with digits in front of the point. -/
def looksFractional (characters : List Char) : Bool :=
  match characters with
  | first :: rest =>
      let whole := rest.takeWhile isDecimalCharacter
      let isDecimal :=
        match rest.drop whole.length with
        | '.' :: fraction => isExponent (fraction.dropWhile isDecimalCharacter)
        | _ => false
      let isSexagesimal :=
        let parts := rest.drop whole.length
        let fraction := parts.dropWhile (· ≠ '.')
        isSexagesimalTail (parts.takeWhile (· ≠ '.')) && !fraction.isEmpty &&
          (fraction.drop 1).all isDecimalCharacter
      first.isDigit && (isDecimal || isSexagesimal)
  | [] => false

/-- The spellings of the infinities. -/
def infinityWords : List String := [".inf", ".Inf", ".INF"]

/-- The spellings of what is not a number. -/
def undefinedWords : List String := [".nan", ".NaN", ".NAN"]

/-- Whether some characters write a floating-point number. -/
def looksFloat (characters : List Char) : Bool :=
  looksFractional (withoutSign characters) ||
    infinityWords.contains (String.ofList (withoutSign characters)) ||
    undefinedWords.contains (String.ofList characters) ||
    match characters with
    | '.' :: first :: rest =>
        first.isDigit && isExponent (rest.dropWhile isDecimalCharacter)
    | _ => false

/-- Some characters without the line break that they may end with. -/
def withoutLastBreak (characters : List Char) : List Char :=
  if characters.getLast? = some '\n' then characters.dropLast else characters

/-- The tag that the look of some characters gives a scalar. -/
def ofLook (content : String) : Tag :=
  let characters := content.toList
  if booleanWords.contains content then .bool
  else if looksFloat characters then .float
  else if looksInteger characters then .int
  else if content = "<<" then .merge
  else if nullWords.contains content then .null
  else if Timestamp.isEvident characters then .timestamp
  else if content = "=" then .standIn
  else if ["!", "&", "*"].contains content then .unknown
  else .text

/-- The tag of a plain scalar that is written without one. -/
def ofPlain (content : String) : Tag :=
  if content = "\n" then
    .text
  else
    ofLook (String.ofList (withoutLastBreak content.toList))

example : ofPlain "1:30" = .int ∧ ofPlain "1e3" = .text := by decide +kernel

end Tag

end FormCheck.Markup
