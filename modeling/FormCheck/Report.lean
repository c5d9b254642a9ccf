import FormCheck.Plan

namespace FormCheck

/-!
# Reports

A report turns a result into what the caller sees: after a failure the payload,
messages by field, and after success the clean values by field. In the standard
payload every input with errors has the list of its messages; a step with one
input adds the messages under the keys derived from its field, and a step with
several inputs gives its field the combined text of all messages under keys that
start with the field.
-/

/-- The messages of a payload under one key. -/
inductive Notice where
  | one (message : Value)
  | many (messages : List Value)
deriving Repr

namespace Notice

/-- A notice as a value. -/
def toValue : Notice → Value
  | .one message => message
  | .many messages => .list messages

end Notice

/-- Messages by field, in order. -/
abbrev Payload := List (String × Notice)

namespace Payload

/-- A payload as a mapping. -/
def toValue (payload : Payload) : Value :=
  .record (payload.map fun item => (item.1, item.2.toValue))

end Payload

/-- Values by field, in order. -/
abbrev CleanValues := List (String × Value)

namespace Report

/-- Whether a text starts with another. -/
def startsWith (text leading : String) : Bool :=
  leading.toList.isPrefixOf text.toList

/-- Whether a text starts with one of some values, which must be texts. -/
def startsWithAny (text : String) : List Value → Except Fault Bool
  | [] => .ok false
  | .text leading :: rest =>
      if startsWith text leading then .ok true else startsWithAny text rest
  | _ :: _ => .error .notText

/-- Whether a text starts with a value: a text, or one of a tuple of texts. -/
def startsWithValue (leading : Value) (text : String) : Except Fault Bool :=
  match leading with
  | .text leading => .ok (startsWith text leading)
  | .tuple items => startsWithAny text items
  | _ => .error .notText

/-- The messages under the keys that pass a test. Every key must be a text. -/
def messagesWhere (test : String → Except Fault Bool) :
    List (Value × List Value) → Except Fault (List Value)
  | [] => .ok []
  | (.text key, messages) :: rest => do
      let passed ← test key
      let others ← messagesWhere test rest
      return if passed then messages ++ others else others
  | _ :: _ => .error .noSuchOperation

/-- The text that a message is. -/
def messageText : Value → Except Fault String
  | .text characters => .ok characters
  | _ => .error .notText

/--
The combined text of all messages under keys that start with a value. Without a
delimiter of its own it takes that of the settings.
-/
def combined (settings : Settings) (result : Result)
    (leading delimiter : Value) : Except Fault String := do
  let messages ← messagesWhere (startsWithValue leading) result.errors
  match delimiter.orDefault settings.compositeDelimiter with
  | .text delimiter =>
      return Value.joined delimiter (← messages.mapM messageText)
  | _ => throw .noSuchOperation

/-- Add the messages of each input of a step. -/
def withInputErrors (result : Result) (payload : Payload) (step : Step) :
    Payload :=
  step.inputs.foldl
    (fun payload input =>
      match result.errorsAt (.text input) with
      | [] => payload
      | messages => put input (.many messages) payload)
    payload

/-- Add the combined messages of a step with several inputs. -/
def withCombined (settings : Settings) (result : Result) (payload : Payload)
    (step : Step) : Except Fault Payload := do
  let text ← combined settings result step.key .null
  return if text = "" then payload else put step.field (.one (.text text)) payload

/-- Add the messages of one step to the standard payload. -/
def standardStep (settings : Settings) (inputKeys : List String)
    (result : Result) (payload : Payload) (step : Step) :
    Except Fault Payload := do
  let payload := withInputErrors result payload step
  if step.isComposite then
    withCombined settings result payload step
  else
    let present :=
      match lookup step.field payload with
      | some (.many messages) => messages
      | _ => []
    let own :=
      if step.inputs.contains step.field then [] else result.errorsAt step.key
    let derived ←
      messagesWhere
        (fun key =>
          .ok (startsWith key (step.field ++ "_") && !inputKeys.contains key))
        result.errors
    match present ++ own ++ derived with
    | [] => return payload
    | messages => return put step.field (.many messages) payload

/-- The standard payload of a result. -/
def standardErrors (settings : Settings) (plan : Plan) (result : Result) :
    Except Fault Payload :=
  plan.foldlM
    (standardStep settings (plan.flatMap Step.inputs) result) []

/-- The standard clean values: of each field the last value recorded. -/
def standardValues (plan : Plan) (result : Result) : CleanValues :=
  plan.foldl
    (fun values step => put step.field (result.value step.key) values) []

/-- The two ways in which a form reports. -/
structure Style where
  errors : Settings → Plan → Result → Except Fault Payload
  values : Plan → Result → Except Fault CleanValues

/-- The standard way to report. -/
def standard : Style where
  errors := standardErrors
  values plan result := .ok (standardValues plan result)

end Report

end FormCheck
