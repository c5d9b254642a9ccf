import FormCheck.Fault
import FormCheck.Value

namespace FormCheck

/-!
# Log records

Computations do not print; they return the records that they log. A logger
shows the records at or above its level, one line each, behind the time, its
name and the level.
-/

namespace Log

/-- The severities of log records. -/
inductive Level where
  | debug
  | info
  | warning
  | error
  | critical
deriving Repr, DecidableEq

namespace Level

/-- The name of a severity. -/
def name : Level → String
  | .debug => "DEBUG"
  | .info => "INFO"
  | .warning => "WARNING"
  | .error => "ERROR"
  | .critical => "CRITICAL"

/-- The severity as a number. -/
def number : Level → Int
  | .debug => 10
  | .info => 20
  | .warning => 30
  | .error => 40
  | .critical => 50

end Level

/-- The names of thresholds, and the severities from which they let records pass. -/
def thresholds : List (String × Int) :=
  [("CRITICAL", 50), ("FATAL", 50), ("ERROR", 40), ("WARN", 30),
    ("WARNING", 30), ("INFO", 20), ("DEBUG", 10), ("NOTSET", 0)]

/-- The threshold with a name. -/
def threshold? (name : String) : Option Int :=
  (thresholds.find? (·.1 = name)).map Prod.snd

/-- The threshold that a setting gives by its name or as an integer. -/
def threshold : Value → Except Fault Int
  | .bool truth => .ok (if truth then 1 else 0)
  | .int number => .ok number
  | .text name =>
      match threshold? name with
      | some number => .ok number
      | none => .error .nonexistent
  | _ => .error .notText

/-- The severity from which a threshold lets records pass; zero stands for none. -/
def effective (threshold : Int) : Int :=
  if threshold = 0 then Level.number .warning else threshold

/-- A record of one event. -/
structure Record where
  level : Level
  source : String
  message : String
deriving Repr, DecidableEq

/-- The records that a threshold lets pass. -/
def visible (threshold : Int) (records : List Record) : List Record :=
  records.filter fun record => effective threshold ≤ record.level.number

/-- The source of the records about runs. -/
def engine : String := "modules.validation.engine"

/-- The source of the records about plans. -/
def planning : String := "modules.validation.core.plan"

/-- The source of the records about the registry. -/
def registering : String := "modules.validation.core.registry"

/-- The source of the records about plans files. -/
def loading : String := "modules.validation.core.config_loader"

/-- The source of the records about configured forms. -/
def configuring : String := "modules.validation.forms.configured"

/-- The source of the records about the feedback form. -/
def feedback : String := "modules.validation.forms.feedback"

/-- The message about an error: its class and text, behind its context if any. -/
def errorMessage (context label text : String) : String :=
  let message := label ++ ": " ++ text
  if context = "" then message else context ++ ": " ++ message

/-- A named destination of log records. -/
structure Logger where
  name : String
  threshold : Int
deriving Repr, DecidableEq

namespace Logger

/-- The text shown for a message of a severity, logged at a time. -/
def line (logger : Logger) (time : String) (level : Level) (message : String) :
    String :=
  if effective logger.threshold ≤ level.number then
    time ++ " - " ++ logger.name ++ " - " ++ level.name ++ " - " ++
      message ++ "\n"
  else
    ""

/--
The text shown for an error. Details add the trace of the error being handled,
which names no error where none is.
-/
def errorLine (logger : Logger) (time : String) (details : Bool)
    (message : String) : String :=
  let trace := "NoneType: None"
  if details then
    let ending := if message.toList.getLast? = some '\n' then "" else "\n"
    logger.line time .error (message ++ ending ++ trace)
  else
    logger.line time .error message

end Logger

end Log

end FormCheck
