import FormCheck.Value.Members

namespace FormCheck

/-!
# Results

Checks record values and errors, each under a key. A result is the list of all
that was recorded, oldest first. The values and the errors seen from outside
are views of that list: the last value of each key and all messages of each
key, the keys in the order in which they first occurred.
-/

/-- One thing recorded: a value, or a message about an error. -/
inductive Entry where
  | value (key value : Value)
  | error (key message : Value)
deriving Repr

namespace Entry

/-- The key that an entry is recorded under. -/
def key : Entry → Value
  | .value key _ => key
  | .error key _ => key

/-- Whether an entry is a message about an error. -/
def isError : Entry → Bool
  | .value _ _ => false
  | .error _ _ => true

/-- The value that an entry records under a key, if it records one. -/
def valueAt? (wanted : Value) : Entry → Option Value
  | .value key stored => if key == wanted then some stored else none
  | .error _ _ => none

/-- The message that an entry records under a key, if it records one. -/
def messageAt? (wanted : Value) : Entry → Option Value
  | .value _ _ => none
  | .error key message => if key == wanted then some message else none

end Entry

/-- All that was recorded in one run, oldest first. -/
structure Result where
  entries : List Entry
deriving Repr

namespace Result

/-- The result in which nothing was recorded yet. -/
def empty : Result := ⟨[]⟩

/-- The result after more was recorded. -/
def extend (result : Result) (entries : List Entry) : Result :=
  ⟨result.entries ++ entries⟩

/-- The result after a value was recorded. -/
def setValue (result : Result) (key value : Value) : Result :=
  result.extend [.value key value]

/-- The result after a message was recorded. -/
def addError (result : Result) (key message : Value) : Result :=
  result.extend [.error key message]

/-- The last value recorded under a key. -/
def value? (result : Result) (key : Value) : Option Value :=
  (result.entries.filterMap (Entry.valueAt? key)).getLast?

/-- The last value recorded under a key, or null. -/
def value (result : Result) (key : Value) : Value :=
  (result.value? key).getD .null

/-- Whether a value was recorded under a key. -/
def hasValue (result : Result) (key : Value) : Bool :=
  (result.value? key).isSome

/-- All messages recorded under a key, oldest first. -/
def errorsAt (result : Result) (key : Value) : List Value :=
  result.entries.filterMap (Entry.messageAt? key)

/-- Whether a message was recorded under a key. -/
def hasErrorsAt (result : Result) (key : Value) : Bool :=
  !(result.errorsAt key).isEmpty

/-- Whether any message was recorded. -/
def hasErrors (result : Result) : Bool :=
  result.entries.any Entry.isError

/-- Add one entry to the values by key. -/
def collectValue (values : Entries) : Entry → Entries
  | .value key value => put key value values
  | .error _ _ => values

/-- Add one entry to the messages by key. -/
def collectError (errors : List (Value × List Value)) :
    Entry → List (Value × List Value)
  | .value _ _ => errors
  | .error key message =>
      put key ((lookup key errors).getD [] ++ [message]) errors

/-- The values by key, in the order in which the keys first held one. -/
def values (result : Result) : Entries :=
  result.entries.foldl collectValue []

/-- The messages by key, in the order in which the keys first failed. -/
def errors (result : Result) : List (Value × List Value) :=
  result.entries.foldl collectError []

/-- The messages by key as a mapping to lists. -/
def errorEntries (result : Result) : Entries :=
  result.errors.map fun error => (error.1, .list error.2)

@[simp] theorem entries_extend (result : Result) (entries : List Entry) :
    (result.extend entries).entries = result.entries ++ entries :=
  rfl

@[simp] theorem extend_nil (result : Result) : result.extend [] = result := by
  simp [extend]

/-- Recording more adds messages behind those recorded before. -/
theorem errorsAt_extend (result : Result) (entries : List Entry)
    (key : Value) :
    (result.extend entries).errorsAt key =
      result.errorsAt key ++ entries.filterMap (Entry.messageAt? key) := by
  simp [errorsAt]

/-- Recording more never takes a value away. -/
theorem hasValue_extend {result : Result} {key : Value}
    (present : result.hasValue key) (entries : List Entry) :
    (result.extend entries).hasValue key := by
  simp only [hasValue, value?, entries_extend, List.filterMap_append,
    List.getLast?_append, Option.isSome_or, Bool.or_eq_true] at present ⊢
  exact .inr present

end Result

end FormCheck
