import FormCheck.Journal
import FormCheck.Settings
import FormCheck.Value.Members
import FormCheck.Value.Text

namespace FormCheck

/-!
# Plans files

A plans file declares the plans of forms. It is read once, and queries answer
from the snapshot taken then until the file is loaded again. Loading that fails
leaves the snapshot as it was; reloading that fails leaves none. The first query
without a snapshot loads the file itself. A file that does not exist counts as
one without forms.
-/

namespace PlanFile

/-- What reading a file gives: nothing if there is no file. -/
abbrev Content := Option (Except Fault Value)

/-- The configuration that stands for a missing file. -/
def emptyConfiguration : Value :=
  .record [("global", .dict []), ("forms", .dict [])]

/-- A loader with the snapshot that it has taken, if any. -/
structure Session where
  path : String
  snapshot : Option Value
deriving Repr

namespace Session

/-- A loader that has read nothing yet. -/
def start (path : String) : Session := ⟨path, none⟩

/-- The configuration in a file, and the log records of reading it. -/
def read (session : Session) (content : Content) : Logged Value := do
  match content with
  | none => do
      Journal.write
        ⟨.warning, Log.loading,
          "Validation plans file not found: " ++ session.path ++
            ". Using empty configuration."⟩
      return emptyConfiguration
  | some (.ok value) => do
      Journal.write
        ⟨.info, Log.loading,
          "Loaded validation plans from: " ++ session.path⟩
      return value.orElse (.dict [])
  | some (.error (.unreadable problem)) => do
      Journal.write
        ⟨.error, Log.loading,
          "Failed to parse validation plans: " ++ problem⟩
      Journal.stop (.unreadable problem)
  | some (.error fault) => Journal.stop fault

/-- The session after a file was read. -/
def keeping (session : Session) (journal : Logged Value) : Session :=
  match journal.ended with
  | .ok value => { session with snapshot := some value }
  | .error _ => session

/-- Load the file and take a snapshot of it. -/
def load (session : Session) (content : Content) : Session × Logged Value :=
  let journal := session.read content
  (session.keeping journal, journal)

/-- Forget the snapshot and load the file. -/
def reload (session : Session) (content : Content) : Session × Logged Value :=
  ({ session with snapshot := none } : Session).load content

/-- The snapshot, loading the file if there is none. -/
def configuration (session : Session) (content : Content) :
    Session × Logged Value :=
  match session.snapshot with
  | some value => (session, pure value)
  | none => session.load content

/-- Answer a question about the snapshot. -/
def query (session : Session) (content : Content)
    (question : Value → Except Fault answer) : Session × Logged answer :=
  let (session, journal) := session.configuration content
  (session, journal >>= fun value => Journal.ofExcept (question value))

end Session

/-- A mapping's value at a key, or an empty mapping where it counts as false. -/
def partAt (configuration : Value) (key : Value) : Except Fault Value := do
  return (← configuration.get key).orElse (.dict [])

/-- The global settings of a configuration. -/
def globalSettings (configuration : Value) : Except Fault Value :=
  partAt configuration (.text "global")

/-- The names of the forms of a configuration. -/
def formNames (configuration : Value) : Except Fault Value := do
  return .list (← (← partAt configuration (.text "forms")).keys)

/-- A raw step that has the given message unless it declares one itself. -/
def inheriting (message : Value) (step : Value) : Value :=
  match step with
  | .dict entries =>
      .dict
        (entries.foldl (fun merged entry => put entry.1 entry.2 merged)
          [(.text "required_msg", message)])
  | other => other

/-- The raw plan of a form of a configuration, as a list of raw steps. -/
def formPlan (form : Value) (configuration : Value) :
    Except Fault (List Value) := do
  let forms ← partAt configuration (.text "forms")
  let formSettings ← partAt forms form
  let plan := (← formSettings.get (.text "plan")).orElse (.list [])
  match ← (← globalSettings configuration).get (.text "required_msg") with
  | .null => (← plan.members).mapM fun step => Value.dict <$> step.entries
  | message => return (← plan.members).map (inheriting message)

end PlanFile

end FormCheck
