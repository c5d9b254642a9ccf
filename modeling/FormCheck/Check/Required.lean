import FormCheck.Check
import FormCheck.Text.Blank

namespace FormCheck

/-!
# Required inputs

An input is empty if there is none, if it is false, a blank text or a
collection without members. A required input must not be empty; an optional one
is stored as it was submitted.
-/

namespace Value

/-- Whether a submitted value counts as not filled in. Zero does not. -/
def isEmpty : Value → Bool
  | .null => true
  | .bool truth => !truth
  | .text characters => (Text.stripped characters.toList).isEmpty
  | .list items | .tuple items | .set items => items.isEmpty
  | .dict entries => entries.isEmpty
  | _ => false

end Value

namespace Check

/-- Store an input, or record a message if it is required and empty. -/
def required (value isRequired key message : Value) : Check Unit :=
  if isRequired.isTruthy && value.isEmpty then
    addError key message
  else
    setValue key value

end Check

end FormCheck
