import FormCheck.Registry

namespace FormCheck

/-!
# Elementary capabilities

Capabilities that accept, refuse or fail whatever they are given, to try out
plans without checking anything.
-/

namespace Capability

/-- Store the input. -/
def accept : Capability :=
  single "accept" fun _ value field _ => Check.setValue field value

/-- Refuse the input with a message. -/
def reject : Capability :=
  single "reject"
    (withOptional (.text "Rejected.") fun _ field message =>
      Check.addError field message)

/-- Store all arguments before the last one, which is the key. -/
def acceptAll : Capability where
  name := "accept_all"
  inputs := 0
  act _ _ field extra :=
    let arguments := field :: extra
    Check.setValue (arguments.getLast?.getD field)
      (.list arguments.dropLast)

/-- Refuse the input with a message under a key of the plan's choice. -/
def rejectAt : Capability :=
  single "reject_at" fun _ _ _ extra =>
    match extra with
    | [key, message] => Check.addError key message
    | _ => Check.stop .wrongArity

/-- Fail. -/
def explode : Capability where
  name := "explode"
  inputs := 0
  act _ _ _ _ := Check.stop (.broken "capability bug")

/-- Require nothing and store nothing. -/
def ignoreRequired : Capability where
  name := "validate_required_field"
  inputs := 0
  act _ _ _ _ := pure ()

end Capability

namespace Registry

/-- The elementary capabilities behind a given check for required inputs. -/
def elementary (requiredField : Capability) : Registry :=
  (.text Registry.requiredName, requiredField) ::
    [Capability.accept, .reject, .acceptAll, .rejectAt, .explode].map
      fun capability => (.text capability.name, capability)

end Registry

end FormCheck
