import FormCheck.Outcome
import FormCheck.Plan.Gate
import FormCheck.Report

namespace FormCheck

/-!
# Validators

A validator has a plan for the submitted data and runs it: it normalises the
plan, lets the gate of each step inspect the inputs, calls the capability of
each step that is not skipped, and reports when all steps are done. The plan may
depend on the data and on a context of trusted values.
-/

/-- A named plan with the capabilities it may use and a way to report. -/
structure Validator where
  name : String
  registry : Registry
  rawPlan : Environment → (data context : Value) → Logged Value
  style : Report.Style

namespace Validator

/-- The sorted keys of a mapping, written as a list. -/
def keyListing (mapping : Value) : Except Fault String := do
  (Value.list (← Value.sorted (← mapping.keys))).written

/-- Log which fields are about to be validated. -/
def announce (validator : Validator) (data : Value) : Logged Unit := do
  let listing ← keyListing data
  Journal.write
    ⟨.debug, Log.engine,
      validator.name ++ " validating fields: " ++ listing⟩

/-- The normalised plan for some data. -/
def buildPlan (validator : Validator) (environment : Environment)
    (data context : Value) : Logged Plan := do
  let raw ← validator.rawPlan environment data (context.orElse (.dict []))
  let plan ← Plan.normalize environment.settings validator.registry raw
  let description ← plan.toValue.written
  Journal.write
    ⟨.debug, Log.engine,
      validator.name ++ " normalized plan: " ++ description⟩
  return plan

/-- The beginning of the log messages about a step. -/
def stepLabel (validator : Validator) (index : Nat) (step : Step) : String :=
  validator.name ++ " step[" ++ toString index ++ "]: " ++ step.field

/-- The record of a capability that a fault stopped. -/
def faultEvent (validator : Validator) (step : Step) (fault : Fault) : Event :=
  .logged
    ⟨.error, Log.engine,
      Log.errorMessage
        (validator.name ++ " capability '" ++ step.method ++
          "' failed for field '" ++ step.field ++ "'")
        fault.label fault.message⟩

/-- Call the capability of a step. -/
def dispatch (validator : Validator) (environment : Environment)
    (data : Value) (step : Step) : Run Unit := do
  let arguments ← step.callArguments data
  Run.emit (.called step.method arguments)
  Run.notingFault (step.capability.call environment arguments)
    (validator.faultEvent step)

/-- Run one step. -/
def runStep (validator : Validator) (environment : Environment)
    (data : Value) (index : Nat) (step : Step) : Run Unit := do
  let label := validator.stepLabel index step
  Run.log .debug Log.engine (label ++ " [START]")
  if ← step.isSkipped environment validator.registry data then
    Run.log .debug Log.engine (label ++ " [SKIPPED]")
  else
    validator.dispatch environment data step
    Run.log .debug Log.engine (label ++ " [COMPLETE]")

/-- Run some steps, numbered from an index on. -/
def runSteps (validator : Validator) (environment : Environment)
    (data : Value) : List Step → Nat → Run Unit
  | [], _ => return
  | step :: rest, index => do
      validator.runStep environment data index step
      runSteps validator environment data rest (index + 1)

/-- The payload of a failed run: the report's, or all errors if that is empty. -/
def failurePayload (validator : Validator) (environment : Environment)
    (plan : Plan) (result : Result) : Except Fault Value := do
  let payload ← validator.style.errors environment.settings plan result
  return if payload.isEmpty then .dict result.errorEntries
    else payload.toValue

/-- Report the outcome of a run whose steps are done. -/
def conclude (validator : Validator) (environment : Environment)
    (plan : Plan) : Run Outcome := do
  let result ← Run.result
  if result.hasErrors then
    let payload ← validator.failurePayload environment plan result
    let listing ← keyListing payload
    Run.log .info Log.engine
      (validator.name ++ " validation failed for fields: " ++ listing)
    return .failed payload
  else
    Run.log .debug Log.engine (validator.name ++ " validation passed")
    return .passed (.record (← validator.style.values plan result))

/-- The whole run on some data, as it records on an empty result. -/
def process (validator : Validator) (environment : Environment)
    (data context : Value) : Run Outcome := do
  validator.announce data
  let plan ← validator.buildPlan environment data context
  validator.runSteps environment data plan 0
  validator.conclude environment plan

/-- Validate some data: the history of the run and its outcome. -/
def run (validator : Validator) (environment : Environment)
    (data context : Value) : Journal Event Outcome :=
  validator.process environment data context Result.empty

/-- Validate some data: the history of the run and the values or their refusal. -/
def validate (validator : Validator) (environment : Environment)
    (data context : Value) : Journal Event (Except Refusal Value) := do
  let outcome ← validator.run environment data context
  outcome.unwrap

/-- A validator whose plan is the same for all data. -/
def fixed (name : String) (registry : Registry) (raw : Value) : Validator where
  name := name
  registry := registry
  rawPlan _ _ _ := pure raw
  style := Report.standard

end Validator

end FormCheck
