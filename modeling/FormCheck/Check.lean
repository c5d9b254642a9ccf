import FormCheck.Journal
import FormCheck.Result
import FormCheck.Settings
import FormCheck.Value.Text

namespace FormCheck

/-!
# Checks

A check reads a result and records more on top of it. It can neither change nor
remove what was recorded before, and what it recorded stays when a fault stops
it.
-/

/-- A computation on a result that records values and errors. -/
def Check (answer : Type) := Result → Journal Entry answer

namespace Check

/-- The result after a check has run on it. -/
def after (check : Check answer) (result : Result) : Result :=
  result.extend (check result).written

/-- Continue a check with its answer, on the result that it left. -/
def andThen (leading : Check first) (continuation : first → Check second) :
    Check second :=
  fun result =>
    let journal := leading result
    journal >>= fun value =>
      continuation value (result.extend journal.written)

instance : Monad Check where
  pure value := fun _ => pure value
  bind := andThen

instance : MonadLift (Except Fault) Check where
  monadLift ended := fun _ => .ofExcept ended

/-- Stop with a fault. -/
def stop (fault : Fault) : Check answer :=
  fun _ => .stop fault

/-- Answer what a result says under a key. -/
def look (key : Value) (view : Result → answer) : Check answer :=
  fun result =>
    if key.isHashable then pure (view result) else .stop .unhashable

/-- Record an entry, whose key must be one that can be looked up. -/
def record (entry : Entry) : Check Unit :=
  fun _ => if entry.key.isHashable then .write entry else .stop .unhashable

/-- Record a value. -/
def setValue (key value : Value) : Check Unit :=
  record (.value key value)

/-- Record a message. -/
def addError (key message : Value) : Check Unit :=
  record (.error key message)

/-- Record a message given as a text. -/
def reject (key : Value) (message : String) : Check Unit :=
  addError key (.text message)

/-- Whether a message was recorded under a key. -/
def hasErrors (key : Value) : Check Bool :=
  look key (·.hasErrorsAt key)

/-- Whether a value was recorded under a key. -/
def hasValue (key : Value) : Check Bool :=
  look key (·.hasValue key)

/-- The last value recorded under a key, or null. -/
def value (key : Value) : Check Value :=
  look key (·.value key)

/-- The key of a part of a field: the field's text, an underscore, the part. -/
def partKey (field : Value) (part : String) : Except Fault Value := do
  return .text ((← field.shown) ++ "_" ++ part)

end Check

end FormCheck
