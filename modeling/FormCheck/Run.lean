import FormCheck.Check

namespace FormCheck

/-!
# Runs

A run records on a result as checks do, logs, and calls capabilities. Its
history holds all of that in order, and the result at any point is what the
history before it recorded.
-/

/-- One event of a run. -/
inductive Event where
  | recorded (entry : Entry)
  | logged (record : Log.Record)
  | called (method : String) (arguments : List Value)
deriving Repr

namespace Event

/-- The entry that an event recorded. -/
def entry? : Event → Option Entry
  | .recorded entry => some entry
  | _ => none

/-- The record that an event logged. -/
def record? : Event → Option Log.Record
  | .logged record => some record
  | _ => none

/-- The method that an event called, with its arguments. -/
def call? : Event → Option (String × List Value)
  | .called method arguments => some (method, arguments)
  | _ => none

end Event

namespace Result

/-- The result after the entries of some events were recorded. -/
def follow (result : Result) (events : List Event) : Result :=
  result.extend (events.filterMap Event.entry?)

end Result

/-- A computation on a result that records, logs and calls capabilities. -/
def Run (answer : Type) := Result → Journal Event answer

namespace Run

/-- Continue a run with its answer, on the result that it left. -/
def andThen (leading : Run first) (continuation : first → Run second) :
    Run second :=
  fun result =>
    let journal := leading result
    journal >>= fun value =>
      continuation value (result.follow journal.written)

instance : Monad Run where
  pure value := fun _ => pure value
  bind := andThen

instance : MonadLift (Except Fault) Run where
  monadLift ended := fun _ => .ofExcept ended

instance : MonadLift Logged Run where
  monadLift journal := fun _ => journal.mapEntries .logged

instance : MonadLift Check Run where
  monadLift check := fun result => (check result).mapEntries .recorded

/-- Stop with a fault. -/
def stop (fault : Fault) : Run answer :=
  fun _ => .stop fault

/-- The result so far. -/
def result : Run Result :=
  fun result => pure result

/-- Add an event to the history. -/
def emit (event : Event) : Run Unit :=
  fun _ => .write event

/-- Log a message. -/
def log (level : Log.Level) (source message : String) : Run Unit :=
  emit (.logged ⟨level, source, message⟩)

/-- Add an event to the history if a fault stops a run, which it still does. -/
def notingFault (run : Run answer) (note : Fault → Event) : Run answer :=
  fun result =>
    let journal := run result
    match journal.ended with
    | .ok _ => journal
    | .error fault => ⟨journal.written ++ [note fault], .error fault⟩

end Run

end FormCheck
