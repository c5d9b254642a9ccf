import FormCheck.Check.Number

namespace FormCheck

/-!
# Selections

A selection is one option or a collection of options, each of which must be
allowed. Options are compared as texts, since forms submit texts. Ratings and
two-way switches are options that are integers.
-/

namespace Check

/-- The texts of some values. -/
def shownAll (values : List Value) : Except Fault (List String) :=
  values.mapM Value.shown

/-- The options that a value allows: of a mapping the keys or the values. -/
def allowedOptions (allowed : Value) (byKey : Bool) :
    Except Fault (List String) := do
  match allowed with
  | .dict entries =>
      shownAll (entries.map fun entry => if byKey then entry.1 else entry.2)
  | allowed => shownAll (← allowed.members)

/-- The options that a value selects. -/
def selectedOptions : Value → List Value
  | .null => []
  | .list items | .tuple items | .set items => items
  | single => [single]

/--
Record a message for each option that is not allowed. The answer holds the
texts of the others, and tells whether there was no message.
-/
def sortOut (key : Value) (allowed : List String) :
    List Value → Check (List String × Bool)
  | [] => return ([], true)
  | option :: rest => do
      let text ← option.shown
      if allowed.contains text then
        let (accepted, flawless) ← sortOut key allowed rest
        return (text :: accepted, flawless)
      else
        reject key ("Invalid option: '" ++ text ++ "'.")
        let (accepted, _) ← sortOut key allowed rest
        return (accepted, false)

/-- Store the texts of the selected options if all of them are allowed. -/
def selection (value key allowed byKey : Value) : Check Unit := do
  let allowed ← allowedOptions allowed byKey.isTruthy
  let (accepted, flawless) ← sortOut key allowed (selectedOptions value)
  if flawless then
    setValue key (.list (accepted.map Value.text))

/-- Store a value that is one of some integers. -/
def integerOption (environment : Environment) (value key : Value)
    (allowed : List Int) : Check Unit := do
  match ← value.readInteger environment.memory with
  | none => reject key "Value must be a valid integer."
  | some number =>
      if allowed.contains number then
        setValue key (.int number)
      else
        reject key
          ("Invalid option: '" ++ (← Number.integerText number) ++ "'.")

/-- Store a rating from 1 to 5; 0 stands for "not applicable" if allowed. -/
def rating (environment : Environment) (value key allowNone : Value) :
    Check Unit :=
  integerOption environment value key
    (if allowNone.isTruthy then [0, 1, 2, 3, 4, 5] else [1, 2, 3, 4, 5])

/-- Store the state of a two-way switch, 0 or 1. -/
def binaryOption (environment : Environment) (value key : Value) :
    Check Unit :=
  integerOption environment value key [0, 1]

end Check

end FormCheck
