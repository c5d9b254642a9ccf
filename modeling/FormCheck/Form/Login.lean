import FormCheck.Form

namespace FormCheck.Form

/-!
# The login form

A login has a program number, whose year lies between the minimal year of the
settings and the next year, and a session code.
-/

namespace Login

/-- The raw plan of the form. -/
def rawPlan (environment : Environment) : Value :=
  .list
    [rawStep "program" "validate_program_number_field"
      [arguments
        [environment.settings.minimalYear, .int environment.nextYear],
        isRequired],
      rawStep "session" "validate_session_code_field" [isRequired]]

/-- The validator of the form. -/
def validator (registry : Registry) : Validator where
  name := "LoginValidator"
  registry := registry
  rawPlan environment _ _ := pure (rawPlan environment)
  style := Report.standard

end Login

end FormCheck.Form
