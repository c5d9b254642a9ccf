import FormCheck.Outcome

namespace FormCheck

/-!
# Responses

A response is what a controller hands on: after success the clean values, after
a failure the messages by field together with the submitted input, so that the
form can be shown again. Its fields have types of their own. Whether values fit
them, and what becomes of them, is up to a validation of fields, over which
responses are parameterised.
-/

/-- The messages of a response under one key. -/
inductive Messages where
  | single (message : String)
  | several (messages : List String)
deriving Repr, DecidableEq

/-- The response to a failed validation. -/
structure ErrorResponse where
  message : String
  errors : List (String × Messages)
  input : List (String × Value)
deriving Repr

/-- The response to a validation. -/
inductive Response where
  | success (data : List (String × Value))
  | failure (response : ErrorResponse)
deriving Repr

namespace Messages

/-- The messages as a list. -/
def toList : Messages → List String
  | .single message => [message]
  | .several messages => messages

/-- The messages as a value. -/
def toValue : Messages → Value
  | .single message => .text message
  | .several messages => .list (messages.map Value.text)

end Messages

namespace Response

/--
A validation of the fields of a response. It makes messages by key of the errors,
and entries with textual keys of other mappings, or refuses them.
-/
structure Validation where
  errors : Value → Except Fault (List (String × Messages))
  entries : Value → Except Fault (List (String × Value))

/-- The kind of every error response. -/
def errorType : String := "validation_error"

/-- The error response with a message, a payload and the submitted input. -/
def ofErrors (validation : Validation) (message : String)
    (errors input : Value) : Except Fault ErrorResponse := do
  let input : Value := .dict (← (input.orElse (.dict [])).entries)
  return ⟨message, ← validation.errors errors, ← validation.entries input⟩

end Response

namespace ErrorResponse

/-- The messages for one field, none for a field without errors. -/
def fieldMessages (response : ErrorResponse) (field : String) : List String :=
  match lookup field response.errors with
  | some messages => messages.toList
  | none => []

/-- The fields of an error response as a mapping. -/
def toValue (response : ErrorResponse) : Value :=
  .record
    [("success", .bool false),
      ("error_type", .text Response.errorType),
      ("error_message", .text response.message),
      ("errors",
        .record (response.errors.map fun item => (item.1, item.2.toValue))),
      ("input", .record response.input)]

end ErrorResponse

namespace Response

/-- The fields of a response as a mapping. -/
def toValue : Response → Value
  | .success data => .record [("success", .bool true), ("data", .record data)]
  | .failure response => response.toValue

end Response

namespace Refusal

/-- The response that a refusal makes of the submitted input. -/
def toResponse (refusal : Refusal) (validation : Response.Validation)
    (input : Value) : Except Fault ErrorResponse :=
  Response.ofErrors validation refusal.message (.dict refusal.errors) input

end Refusal

namespace Outcome

/-- The response that an outcome makes of the submitted input. -/
def toResponse (outcome : Outcome) (validation : Response.Validation)
    (input : Value) : Except Fault Response :=
  match outcome with
  | .passed values => Response.success <$> validation.entries values
  | .failed errors =>
      Response.failure <$>
        Response.ofErrors validation "Validation errors occurred." errors input

end Outcome

/-! ## Validation by kinds -/

namespace Messages

/-- The messages that a value holds: a text or a collection of texts. -/
def ofValue : Value → Except Fault Messages
  | .text message => .ok (.single message)
  | .list items | .tuple items | .set items =>
      Messages.several <$> items.mapM fun item =>
        match item with
        | .text message => .ok message
        | _ => .error .illFormedResponse
  | _ => .error .illFormedResponse

end Messages

namespace Response.Validation

/-- The entries of a mapping whose keys are all texts. -/
def textEntries : Value → Except Fault (List (String × Value))
  | .dict entries =>
      entries.mapM fun entry =>
        match entry.1 with
        | .text key => .ok (key, entry.2)
        | _ => .error .illFormedResponse
  | _ => .error .illFormedResponse

/-- The validation that goes by the kinds of values alone. -/
def byKind : Validation where
  errors value := do
    (← textEntries value).mapM fun entry => do
      return (entry.1, ← Messages.ofValue entry.2)
  entries := textEntries

end Response.Validation

end FormCheck
