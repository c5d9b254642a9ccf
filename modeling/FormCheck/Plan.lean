import FormCheck.Registry

namespace FormCheck

/-!
# Validation plans

A raw plan is a list of mappings, one for each step. Normalising it fills in
what a step leaves out, finds its capability and refuses the whole plan if one
of its steps is malformed, before anything runs.

A step names its `field` and its `method`, the name of a capability. It may list
the input keys under `fields` (by default the field), extra arguments under
`args`, whether the inputs are `required`, and the message for a missing input
under `required_msg` or else under `requiredMsg`. What is null counts as left
out. Other keys are ignored with a warning.
-/

/-- One step of a plan, complete and with its capability. -/
structure Step where
  field : String
  inputs : List String
  method : String
  capability : Capability
  arguments : List Value
  isRequired : Bool
  message : String

namespace Step

/-- The key of the field. -/
def key (step : Step) : Value :=
  .text step.field

/-- Whether a step reads several inputs, or none. -/
def isComposite (step : Step) : Bool :=
  step.inputs.length ≠ 1

/-- The raw mapping of a step, with nothing left out. -/
def toValue (step : Step) : Value :=
  .record
    [("field", .text step.field),
      ("fields", .list (step.inputs.map Value.text)),
      ("method", .text step.method),
      ("args", .list step.arguments),
      ("required", .bool step.isRequired),
      ("required_msg", .text step.message)]

end Step

/-- The steps of a normalised plan. -/
abbrev Plan := List Step

namespace Plan

/-- The keys that a raw step may have. -/
def stepKeys : List String :=
  ["field", "fields", "method", "args", "required", "required_msg",
    "requiredMsg"]

/-- Refuse a plan, for a step if one is to blame. -/
def refuse (message : String) (step : Option Int) : Logged answer := do
  Journal.write
    ⟨.error, Log.planning, "Invalid validation plan: " ++ message⟩
  Journal.stop (.malformedPlan message step)

/-- Refuse a plan for a step, whose index ends the message. -/
def refuseStep (message : String) (index : Int) (ending : String) :
    Logged answer := do
  refuse (message ++ (← Number.integerText index) ++ ending) (some index)

/-- Refuse a plan for a step with a known field. -/
def refuseField (message field : String) (index : Int) : Logged answer :=
  refuse (message ++ " for field '" ++ field ++ "'") (some index)

/-- The keys of a raw step that it may not have. -/
def unknownKeys (entries : Entries) : List Value :=
  (entries.map Prod.fst).filter fun key =>
    !(stepKeys.map Value.text).contains key

/-- Warn of keys that a step may not have. -/
def warnOfUnknownKeys (entries : Entries) (index : Int) : Logged Unit := do
  let unknown := unknownKeys entries
  unless unknown.isEmpty do
    let keys ← (Value.list (← Value.sorted unknown)).written
    Journal.write
      ⟨.warning, Log.planning,
        "Ignoring unknown keys " ++ keys ++ " in validation step at index " ++
          (← Number.integerText index)⟩

/-- The value of a raw step at a key, null if it is left out. -/
def entryAt (entries : Entries) (key : String) : Value :=
  (lookup (Value.text key) entries).getD .null

/-- The members of a list or tuple. -/
def sequence? : Value → Option (List Value)
  | .list items | .tuple items => some items
  | _ => none

/-- The characters of a text. -/
def characters? : Value → Option String
  | .text characters => some characters
  | _ => none

/-- The characters of a text that is not empty. -/
def properText? (value : Value) : Option String :=
  (characters? value).filter (· ≠ "")

/-- The texts that some values are, if all of them are texts and none is empty. -/
def properTexts? (values : List Value) : Option (List String) :=
  values.mapM properText?

/-- The field and the method of a raw step. -/
def fieldAndMethod (entries : Entries) (index : Int) :
    Logged (String × String) := do
  match entryAt entries "field", entryAt entries "method" with
  | .null, _ | _, .null =>
      refuseStep "Validation step at index " index
        " is missing 'field' or 'method'"
  | field, method =>
      match properText? field with
      | none =>
          refuseStep "'field' must be a non-empty string at step index " index
            ""
      | some field =>
          match properText? method with
          | none =>
              refuseStep "'method' must be a non-empty string at step index "
                index ""
          | some method => return (field, method)

/-- The input keys of a raw step. -/
def inputsOf (entries : Entries) (field : String) (index : Int) :
    Logged (List String) := do
  match entryAt entries "fields" with
  | .null => return [field]
  | value =>
      match sequence? value with
      | none => refuseStep "'fields' must be a list at step index " index ""
      | some items =>
          match items, properTexts? items with
          | _ :: _, some inputs => return inputs
          | _, _ =>
              refuseStep
                "'fields' must be a non-empty list of strings at step index "
                index ""

/-- The extra arguments of a raw step. -/
def argumentsOf (entries : Entries) (field : String) (index : Int) :
    Logged (List Value) := do
  match entryAt entries "args" with
  | .null => return []
  | value =>
      match sequence? value with
      | none => refuseField "'args' must be a list" field index
      | some items => return items

/-- Whether the inputs of a raw step are required. -/
def requiredOf (entries : Entries) (field : String) (index : Int) :
    Logged Bool := do
  match entryAt entries "required" with
  | .null => return false
  | .bool isRequired => return isRequired
  | _ => refuseField "'required' must be a boolean" field index

/-- What a raw step has as its message, null if it is left out. -/
def messageAt (entries : Entries) : Value :=
  (lookup (Value.text "required_msg") entries).getD
    (entryAt entries "requiredMsg")

/-- The message of a raw step for a missing input. -/
def messageOf (settings : Settings) (entries : Entries) (field : String)
    (index : Int) : Logged String := do
  let message := (messageAt entries).orDefault settings.requiredMessage
  match characters? message with
  | some characters => return characters
  | none => refuseField "'required_msg' must be a string" field index

/-- The message about a capability that is not registered. -/
def unregisteredMessage (method index : String) : String :=
  "Capability '" ++ method ++ "' is not registered (step index " ++ index ++ ")"

/-- The capability of a raw step. -/
def capabilityOf (registry : Registry) (method : String) (index : Int) :
    Logged Capability := do
  match registry.find? method with
  | some capability => return capability
  | none => do
      let indexText ← Number.integerText index
      Journal.write
        ⟨.error, Log.planning,
          "Validation step at index " ++ indexText ++
            " uses unregistered capability '" ++ method ++ "'"⟩
      Journal.stop
        (.unknownCapability method (some index)
          (unregisteredMessage method indexText))

/-- The step that a raw step stands for. -/
def normalizeStep (settings : Settings) (registry : Registry) (raw : Value)
    (index : Int) : Logged Step := do
  match raw with
  | .dict entries =>
      warnOfUnknownKeys entries index
      let (field, method) ← fieldAndMethod entries index
      let inputs ← inputsOf entries field index
      let arguments ← argumentsOf entries field index
      let isRequired ← requiredOf entries field index
      let message ← messageOf settings entries field index
      let capability ← capabilityOf registry method index
      return {
        field := field
        inputs := inputs
        method := method
        capability := capability
        arguments := arguments
        isRequired := isRequired
        message := message
      }
  | _ => refuseStep "Validation step at index " index " must be a mapping"

/-- The steps that raw steps stand for, numbered from an index on. -/
def normalizeFrom (settings : Settings) (registry : Registry) :
    List Value → Nat → Logged Plan
  | [], _ => return []
  | raw :: rest, index => do
      let step ← normalizeStep settings registry raw index
      let steps ← normalizeFrom settings registry rest (index + 1)
      return step :: steps

/-- The plan that a raw plan stands for. -/
def normalize (settings : Settings) (registry : Registry) (raw : Value) :
    Logged Plan := do
  match sequence? raw with
  | none =>
      refuse ("Validation plan must be a list, got " ++ raw.kindName) none
  | some steps =>
      if !steps.isEmpty && !registry.has Registry.requiredName then
        Journal.write
          ⟨.error, Log.planning,
            "Capability registry has no '" ++ Registry.requiredName ++ "'"⟩
        Journal.stop
          (.unknownCapability Registry.requiredName none
            (unregisteredMessage Registry.requiredName "None"))
      normalizeFrom settings registry steps 0

/-- The raw plan of a plan, with nothing left out. -/
def toValue (plan : Plan) : Value :=
  .list (plan.map Step.toValue)

end Plan

end FormCheck
