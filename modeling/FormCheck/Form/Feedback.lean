import FormCheck.Form

namespace FormCheck.Form

/-!
# The feedback form

Feedback names the respondent, the dates of the observation, the staff and the
instruments, and rates the experience. The options for staff and instruments
come from the context. After a failure each input has one message and the dates
have all of theirs combined; after success the dates are two timestamps. Trusted
program data travels with the form and must come back unchanged.
-/

namespace Feedback

/-- The inputs of the two dates. -/
def dateInputs : List String :=
  ["startyear", "startmonth", "startday", "endyear", "endmonth", "endday"]

/-- The field of the two dates. -/
def datesField : String := "dates"

/-- The options that the context offers under a key, none by default. -/
def options (context : Value) (key : String) : Except Fault Value :=
  match context with
  | .dict entries => .ok ((lookup (Value.text key) entries).getD (.dict []))
  | _ => .error .noSuchOperation

/-- The raw plan of the form. -/
def rawPlan (context : Value) : Except Fault Value := do
  let support ← options context "support"
  let operator ← options context "operator"
  let instruments ← options context "instruments"
  let rating (field : String) :=
    rawStep field "validate_rating" [arguments [.bool true], isRequired]
  let remark (field : String) :=
    rawStep field "validate_long_text_field" [arguments [.int 500]]
  return .list
    [rawStep "respondent" "validate_name_field"
      [arguments [.int 70], isRequired],
      rawStep "email" "validate_email_field" [arguments [.int 70], isRequired],
      .record
        [("field", .text datesField),
          ("fields", .list (dateInputs.map Value.text)),
          ("method", .text "validate_date_range"),
          isRequired,
          ("required_msg", .text "These fields are required")],
      rawStep "support_staff" "validate_selection"
        [arguments [support], isRequired],
      rawStep "operator_staff" "validate_selection"
        [arguments [operator], isRequired],
      rawStep "instruments" "validate_selection"
        [arguments [instruments], isRequired,
          ("required_msg", .text "At least one instrument must be selected")],
      rawStep "location" "validate_location" [isRequired],
      rawStep "experience" "validate_rating"
        [arguments [.bool false], isRequired],
      rawStep "technical" "validate_long_text_field"
        [arguments [.int 500], isRequired],
      rating "scientificstaff", rating "operators", rating "daycrew",
      remark "personnel", remark "scientific", remark "comments"]

/-- The clean values of one step. -/
def withStepValue (result : Result) (values : CleanValues) (step : Step) :
    CleanValues :=
  if step.field = datesField then
    put "end_date" (result.value (.text "dates_end_timestamp"))
      (put "start_date" (result.value (.text "dates_start_timestamp")) values)
  else
    put step.field (result.value step.key) values

/-- The clean values, with the two dates as timestamps. -/
def values (plan : Plan) (result : Result) : CleanValues :=
  plan.foldl (withStepValue result) []

/-- Add the first message of each input of a step. -/
def withFirstErrors (result : Result) (payload : Payload) (step : Step) :
    Payload :=
  step.inputs.foldl
    (fun payload input =>
      match result.errorsAt (.text input) with
      | [] => payload
      | message :: _ => put input (.one message) payload)
    payload

/-- Add the messages of one step. -/
def withStepErrors (settings : Settings) (result : Result) (payload : Payload)
    (step : Step) : Except Fault Payload := do
  let payload := withFirstErrors result payload step
  if step.isComposite then
    Report.withCombined settings result payload step
  else if (lookup step.field payload).isSome then
    return payload
  else
    match result.errorsAt step.key with
    | [] => return payload
    | message :: _ => return put step.field (.one message) payload

/-- The payload: one message per input, combined ones for several inputs. -/
def errors (settings : Settings) (plan : Plan) (result : Result) :
    Except Fault Payload :=
  plan.foldlM (withStepErrors settings result) []

/-- How the form reports. -/
def style : Report.Style where
  errors := errors
  values plan result := .ok (values plan result)

/-- The validator of the form. -/
def validator (registry : Registry) : Validator where
  name := "FeedbackValidator"
  registry := registry
  rawPlan _ _ context := Journal.ofExcept (rawPlan context)
  style := style

/-- The keys of the trusted program data. -/
def programKeys : List String := ["a", "i", "n", "s"]

/-- The text of a mapping's value at a key, empty if it is absent. -/
def programText (data : Value) (key : String) : Except Fault String :=
  match data with
  | .dict entries =>
      ((lookup (Value.text key) entries).getD (.text "")).shown
  | _ => .error .noSuchOperation

/-- Compare the program data under some keys. -/
def compareProgram (submitted trusted : Value) : List String → Logged Unit
  | [] => return
  | key :: rest => do
      let returned ← programText submitted key
      let expected ← programText trusted key
      if returned ≠ expected then
        Journal.write
          ⟨.error, Log.feedback, "Program data mismatch on key '" ++ key ++ "'"⟩
        Journal.stop .alteredProgram
      compareProgram submitted trusted rest

/-- Confirm that the trusted program data came back unchanged. -/
def confirmProgram (submitted trusted : Value) : Logged Unit := do
  compareProgram submitted trusted programKeys
  Journal.write
    ⟨.debug, Log.feedback, "Program integrity check passed"⟩

end Feedback

end FormCheck.Form
