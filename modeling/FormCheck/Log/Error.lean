import FormCheck.Log
import FormCheck.Value.Members
import FormCheck.Value.Text

namespace FormCheck.Log

/-!
# Texts of errors

An error made with one argument says that argument, one made with several says
all of them in parentheses. An error about a missing key quotes it, and errors
of this library have texts of their own and no more than two arguments.
-/

/-- The text of a refusal of values, whose second argument is its payload. -/
def refusalText : List Value → Except Fault String
  | [] => .ok "Validation failed."
  | [message] => message.shown
  | [message, payload] => do
      let _ ← (payload.orElse (.dict [])).entries
      message.shown
  | _ => .error .wrongArity

/-- The text of an error about a capability that is not registered at a step. -/
def unregisteredText (method step : Value) : Except Fault String := do
  return "Capability '" ++ (← method.shown) ++
    "' is not registered (step index " ++ (← step.shown) ++ ")"

/-- The text of an error about a malformed plan. -/
def malformedText : List Value → Except Fault String
  | [message] | [message, _] => message.shown
  | _ => .error .wrongArity

/-- The text of an error of a class, made with some arguments. -/
def errorText (label : String) (arguments : List Value) :
    Except Fault String :=
  match label, arguments with
  | "PlanDefinitionError", arguments => malformedText arguments
  | "UnknownCapabilityError", [method] => unregisteredText method .null
  | "UnknownCapabilityError", [method, step] => unregisteredText method step
  | "UnknownCapabilityError", _ => .error .wrongArity
  | "ValidationException", arguments => refusalText arguments
  | "KeyError", [key] => key.written
  | _, [] => .ok ""
  | _, [single] => single.shown
  | _, several => (Value.tuple several).written

end FormCheck.Log
