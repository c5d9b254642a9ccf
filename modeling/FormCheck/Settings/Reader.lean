import FormCheck.Settings
import FormCheck.Settings.EnvFile
import FormCheck.Value.Members

namespace FormCheck

/-!
# Reading settings

Settings are read from environment variables and from an environment file; a
variable wins over the file, and what neither names keeps its default. Names are
compared without regard to case. Truth values and integers are read from their
usual texts, and every setting that cannot be read is reported.
-/

namespace Settings

/-- The settings as they are found: for each name its text. -/
abbrev Found := String → Option String

/-- The last assignment to each name, in the places of the first ones. -/
def lastAssignments (assignments : List EnvFile.Assignment) :
    List EnvFile.Assignment :=
  assignments.foldl (fun all assignment => put assignment.1 assignment.2 all) []

/--
The text assigned to a name, compared without case: of the names that are equal
then, the last one gives the text.
-/
def lastValue? (assignments : List EnvFile.Assignment) (name : String) :
    Option String :=
  match (lastAssignments assignments).reverse.find?
      (·.1.toLower = name.toLower) with
  | some (_, value) => value
  | none => none

/-- What the variables and the file assign. -/
def found (assignments : List (String × String)) (file : Option String) :
    Found := fun name =>
  let own := assignments.map fun item => (item.1, some item.2)
  match lastValue? own name with
  | some value => some value
  | none => file.bind fun text => lastValue? (EnvFile.read assignments text) name

/-- The truth value that a text writes. -/
def readBool? (text : String) : Option Bool :=
  let word := text.toLower
  if ["1", "t", "true", "y", "yes", "on"].contains word then
    some true
  else if ["0", "f", "false", "n", "no", "off"].contains word then
    some false
  else
    none

/-- Whether a character may surround the text of an integer. -/
def isSpace (character : Char) : Bool :=
  Text.isBlank character &&
    !(0x1C ≤ character.toNat && character.toNat ≤ 0x1F)

/-- The most characters of an integer. -/
def integerLimit : Nat := 4300

/-- The integer that some characters write without anything to be cleaned up. -/
def plainInteger? (characters : List Char) : Option Int :=
  let digits :=
    match characters with
    | '-' :: digits => digits
    | digits => digits
  let isPlain :=
    match digits with
    | ['0'] => true
    | first :: rest => '1' ≤ first && first ≤ '9' && rest.all Char.isDigit
    | [] => false
  if isPlain && characters.length ≤ integerLimit then
    let size : Int := Text.numberOfAscii digits
    some (if characters.head? = some '-' then -size else size)
  else
    none

/--
Some characters behind the zeros and underscores that follow a zero, given the
last of these. If nothing follows or a point does, the last one stays.
-/
def behindZeros? (last : Char) : List Char → Option (List Char)
  | [] => some [last]
  | character :: rest =>
      if character = '0' || character = '_' then
        behindZeros? character rest
      else if character = '.' then
        some (last :: character :: rest)
      else if character = '-' || character.isDigit then
        some (character :: rest)
      else
        none

/-- Some characters without the zeros in front of a number. -/
def withoutLeadingZeros? : List Char → Option (List Char)
  | '0' :: rest => behindZeros? '0' rest
  | character :: rest =>
      if character = '-' || character.isDigit then
        some (character :: rest)
      else
        none
  | [] => none

/-- Some characters without a point behind which only zeros stand. -/
def withoutZeroFraction (characters : List Char) : List Char :=
  match characters.dropWhile (· ≠ '.') with
  | _ :: fraction =>
      if !fraction.isEmpty && fraction.all (· = '0') then
        characters.takeWhile (· ≠ '.')
      else
        characters
  | [] => characters

/-- Whether two underscores stand side by side. -/
def hasDoubleUnderscore : List Char → Bool
  | '_' :: '_' :: _ => true
  | _ :: rest => hasDoubleUnderscore rest
  | [] => false

/-- Some characters without the single underscores inside them. -/
def withoutUnderscores? (characters : List Char) : Option (List Char) :=
  if characters.head? = some '_' || characters.getLast? = some '_' ||
      hasDoubleUnderscore characters then
    none
  else
    some (characters.filter (· ≠ '_'))

/-- The integer that some characters write once they are cleaned up. -/
def cleanedInteger? (characters : List Char) : Option Int := do
  let unsigned ←
    match characters with
    | '+' :: '-' :: _ => none
    | '+' :: rest => some rest
    | characters => some characters
  let digits ← withoutLeadingZeros? unsigned
  plainInteger? (← withoutUnderscores? (withoutZeroFraction digits))

/--
The integer that a text writes: with spaces around it, zeros in front, a point
and zeros behind, and single underscores inside.
-/
def readInt? (text : String) : Option Int :=
  let characters :=
    ((text.toList.dropWhile isSpace).reverse.dropWhile isSpace).reverse
  match plainInteger? characters with
  | some integer => some integer
  | none => cleanedInteger? characters

/-- The name of a severity that may be set. -/
def readLevel? (text : String) : Option String :=
  if ["DEBUG", "INFO", "WARNING", "ERROR", "CRITICAL"].contains text then
    some text
  else
    none

/-- Read one setting: its value, or its default, or its name if it is wrong. -/
def readOne (found : Found) (name : String) (fallback : Value)
    (reader : String → Option Value) : Except String Value :=
  match found name with
  | none => .ok fallback
  | some text =>
      match reader text with
      | some value => .ok value
      | none => .error name

/-- Read one setting that is a text. -/
def readText (found : Found) (name : String) (fallback : Value) : Value :=
  ((found name).map Value.text).getD fallback

/-- The name of a setting that could not be read. -/
def failure : Except String Value → List String
  | .ok _ => []
  | .error name => [name]

/-- Read all settings, or name those that cannot be read in ascending order. -/
def ofFound (found : Found) : Except (List String) Settings :=
  let defaults : Settings := {}
  let integer (text : String) : Option Value := (readInt? text).map .int
  let debug :=
    readOne found "DEBUG" defaults.debug fun text =>
      (readBool? text).map .bool
  let logLevel :=
    readOne found "LOG_LEVEL" defaults.logLevel fun text =>
      (readLevel? text).map .text
  let minimalYear :=
    readOne found "VALIDATION_MIN_YEAR" defaults.minimalYear integer
  let futureYears :=
    readOne found "VALIDATION_FUTURE_YEARS" defaults.futureYears integer
  match debug, logLevel, minimalYear, futureYears with
  | .ok debug, .ok logLevel, .ok minimalYear, .ok futureYears =>
      .ok {
        applicationName := readText found "APP_NAME" defaults.applicationName
        applicationVersion :=
          readText found "APP_VERSION" defaults.applicationVersion
        debug := debug
        logLevel := logLevel
        requiredMessage :=
          readText found "VALIDATION_REQUIRED_MESSAGE" defaults.requiredMessage
        compositeDelimiter :=
          readText found "VALIDATION_COMPOSITE_DELIMITER"
            defaults.compositeDelimiter
        plansPath := readText found "VALIDATION_PLANS_PATH" defaults.plansPath
        minimalYear := minimalYear
        futureYears := futureYears
      }
  | _, _, _, _ =>
      .error
        (failure debug ++ failure logLevel ++ failure futureYears ++
          failure minimalYear)

/-- Read the settings from environment variables and an environment file. -/
def read (assignments : List (String × String)) (file : Option String) :
    Except (List String) Settings :=
  ofFound (found assignments file)

/-- The settings by name. -/
def listing (settings : Settings) : List (String × Value) :=
  [("APP_NAME", settings.applicationName),
    ("APP_VERSION", settings.applicationVersion),
    ("DEBUG", settings.debug),
    ("LOG_LEVEL", settings.logLevel),
    ("VALIDATION_REQUIRED_MESSAGE", settings.requiredMessage),
    ("VALIDATION_COMPOSITE_DELIMITER", settings.compositeDelimiter),
    ("VALIDATION_PLANS_PATH", settings.plansPath),
    ("VALIDATION_MIN_YEAR", settings.minimalYear),
    ("VALIDATION_FUTURE_YEARS", settings.futureYears)]

end Settings

end FormCheck
