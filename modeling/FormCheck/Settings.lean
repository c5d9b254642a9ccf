import FormCheck.Calendar
import FormCheck.Number.Digits
import FormCheck.Value

namespace FormCheck

/-!
# Settings

The settings of the application, with their defaults, and the environment in
which checks run: the settings, the current date and the memory. Settings that are
read have the kinds of their defaults. A program may put any value in the place of
one, which then is at fault where a value of another kind is needed.
-/

/-- The application settings. -/
structure Settings where
  applicationName : Value := .text "Form Validation Engine"
  applicationVersion : Value := .text "1.0.0"
  debug : Value := .bool false
  logLevel : Value := .text "INFO"
  requiredMessage : Value := .text "This field is required"
  compositeDelimiter : Value := .text "; "
  plansPath : Value := .null
  minimalYear : Value := .int 2000
  futureYears : Value := .int 5
deriving Repr

/--
The memory that there is for an integer read from a decimal number, by the digits
that fit into it. An integer that may be written fits. How much else does depends
on the machine, but no machine of 64 bits can ask for the room of more digits than
the last bound says.
-/
structure Memory where
  digits : Nat
  writable : Number.digitLimit ≤ digits
  countable : digits ≤ 2711437152599294
deriving Repr

/-- A memory into which integers of a thousand million digits fit. -/
def Memory.ample : Memory :=
  ⟨1000000000, by decide, by decide⟩

/-- What a check may read or use up besides its arguments and the result. -/
structure Environment where
  settings : Settings
  today : Date
  memory : Memory
deriving Repr

namespace Value

/-- The sum of an integer and a number. -/
def addedTo (integer : Int) (value : Value) : Except Fault Value :=
  match value.number? with
  | some (.int number) => .ok (.int (integer + number))
  | some (.float number) =>
      .ok (.float ((Number.Double.ofInt integer).add number))
  | none => .error .notNumeric

end Value

namespace Environment

/-- An environment with the default settings and an ample memory on a day. -/
def on (today : Date) : Environment :=
  ⟨{}, today, .ample⟩

/-- The last year that a check accepts by default. -/
def lastYear (environment : Environment) : Except Fault Value :=
  environment.settings.futureYears.addedTo environment.today.year

/-- The year after the current one. -/
def nextYear (environment : Environment) : Int :=
  environment.today.year + 1

end Environment

end FormCheck
