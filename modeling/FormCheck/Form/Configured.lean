import FormCheck.Form
import FormCheck.PlanFile

namespace FormCheck.Form

/-!
# Configured forms

The plan of a configured form is declared in a plans file. An argument of the
form `$context.key` stands for the value that the context holds at the key, and
a context without the key is a fault of the plan.
-/

namespace Configured

/-- The beginning of an argument that refers to the context. -/
def contextMark : String := "$context."

/-- The key of the context that an argument refers to, if it refers to one. -/
def contextKey? : Value → Option String
  | .text characters =>
      if Report.startsWith characters contextMark then
        some (String.ofList (characters.toList.drop contextMark.length))
      else
        none
  | _ => none

/-- An argument of a step with what it refers to put in its place. -/
def resolveArgument (form : String) (context : Value) (index : Nat)
    (argument : Value) : Logged Value := do
  match contextKey? argument with
  | none => return argument
  | some key =>
      unless ← context.holdsText key do
        let message :=
          "Form '" ++ form ++ "' step " ++ toString index ++
            " needs context key '" ++ key ++ "'"
        Journal.write ⟨.error, Log.configuring, message⟩
        Journal.stop (.malformedPlan message (some index))
      context.atKey key

/-- The arguments of a step with what they refer to put in their places. -/
def resolveArguments (form : String) (context : Value) (index : Nat) :
    List Value → Logged (List Value)
  | [] => return []
  | argument :: rest => do
      let resolved ← resolveArgument form context index argument
      let others ← resolveArguments form context index rest
      return resolved :: others

/-- A raw step with its arguments resolved, if it lists any. -/
def resolveStep (form : String) (context : Value) (index : Nat)
    (step : Value) : Logged Value := do
  match step with
  | .dict entries =>
      match lookup (Value.text "args") entries with
      | some (.list items) =>
          let resolved ← resolveArguments form context index items
          return .dict (put (.text "args") (.list resolved) entries)
      | _ => return step
  | _ => return step

/-- Raw steps, numbered from an index on, with their arguments resolved. -/
def resolveSteps (form : String) (context : Value) :
    List Value → Nat → Logged (List Value)
  | [], _ => return []
  | step :: rest, index => do
      let resolved ← resolveStep form context index step
      let others ← resolveSteps form context rest (index + 1)
      return resolved :: others

/-- The raw plan of a form, from the snapshot of a plans file. -/
def rawPlan (session : PlanFile.Session) (content : PlanFile.Content)
    (form : Value) (formText : String) (context : Value) : Logged Value := do
  let steps ← (session.query content (PlanFile.formPlan form)).2
  if steps.isEmpty then
    Journal.write
      ⟨.warning, Log.configuring,
        "No validation plan configured for form '" ++ formText ++ "'"⟩
  return .list (← resolveSteps formText context steps 0)

/-- The validator of a form, as long as the file and its snapshot stay. -/
def validator (registry : Registry) (session : PlanFile.Session)
    (content : PlanFile.Content) (form : Value) : Except Fault Validator := do
  let formText ← form.shown
  return {
    name := "ConfiguredFormValidator[" ++ formText ++ "]"
    registry := registry
    rawPlan := fun _ _ context => rawPlan session content form formText context
    style := Report.standard
  }

/-- The session after the plan of a form was built. -/
def sessionAfterPlan (session : PlanFile.Session)
    (content : PlanFile.Content) : PlanFile.Session :=
  (session.configuration content).1

/-- The session after a run on some data, which builds a plan for a mapping. -/
def sessionAfterRun (session : PlanFile.Session) (content : PlanFile.Content)
    (data : Value) : PlanFile.Session :=
  match Validator.keyListing data with
  | .ok _ => sessionAfterPlan session content
  | .error _ => session

end Configured

end FormCheck.Form
