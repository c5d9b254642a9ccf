import FormCheck.Plan
import FormCheck.Run

namespace FormCheck

/-!
# The gate of a step

Before the capability of a step is called, the gate inspects every input of the
step: it stores the inputs that are present and records the step's message for
each required input that is missing. A required step with an input that has no
stored value is skipped.
-/

namespace Step

/-- Inspect some inputs of a step; whether one of them has no stored value. -/
def inspect (environment : Environment) (gate : Capability) (step : Step)
    (data : Value) : List String → Run Bool
  | [] => return false
  | input :: rest => do
      let key : Value := .text input
      gate.call environment
        [← data.get key, .bool step.isRequired, key, .text step.message]
      let present ← Check.hasValue key
      let isMissing := step.isRequired && !present
      if isMissing then
        Run.log .debug Log.planning
          ("Skipping '" ++ step.method ++ "' for field '" ++ input ++
            "' (missing required value)")
      let othersMissing ← inspect environment gate step data rest
      return isMissing || othersMissing

/-- Whether a step has to be skipped, after the gate has inspected its inputs. -/
def isSkipped (environment : Environment) (registry : Registry) (step : Step)
    (data : Value) : Run Bool :=
  match registry.find? Registry.requiredName with
  | none => Run.stop .missingKey
  | some gate => step.inspect environment gate data step.inputs

/-- The arguments of a step's capability: input values, field, extra arguments. -/
def callArguments (step : Step) (data : Value) : Except Fault (List Value) := do
  let values ← step.inputs.mapM fun input => data.get (.text input)
  return values ++ step.key :: step.arguments

end Step

end FormCheck
