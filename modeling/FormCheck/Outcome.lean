import FormCheck.Value.Members

namespace FormCheck

/-!
# Outcomes

A validation passes with clean values or fails with a payload of messages.
Whoever wants only the values is refused them after a failure.
-/

/-- How a validation ended. -/
inductive Outcome where
  | passed (values : Value)
  | failed (errors : Value)
deriving Repr

/-- The refusal of values after a failure. -/
structure Refusal where
  message : String
  errors : Entries
deriving Repr

namespace Refusal

/-- The message of a refusal that was given none. -/
def defaultMessage : String := "Validation failed."

/-- The refusal with a message and a payload, which must be a mapping. -/
def ofPayload (message : String) (payload : Value) : Except Fault Refusal := do
  return ⟨message, ← (payload.orElse (.dict [])).entries⟩

end Refusal

namespace Outcome

/-- Whether a validation passed. -/
def hasPassed : Outcome → Bool
  | .passed _ => true
  | .failed _ => false

/-- The clean values, none after a failure. -/
def values : Outcome → Value
  | .passed values => values
  | .failed _ => .dict []

/-- The payload, empty after success. -/
def errors : Outcome → Value
  | .passed _ => .dict []
  | .failed errors => errors

/-- The clean values, or the refusal of them. -/
def unwrap : Outcome → Except Fault (Except Refusal Value)
  | .passed values => .ok (.ok values)
  | .failed errors =>
      (Refusal.ofPayload "Validation errors occurred." errors).map .error

end Outcome

end FormCheck
