import FormCheck.PlanFile

namespace FormCheck.PlanFile

/-!
# The bundled plans

The configuration that comes with the library declares the plans of three forms
without a validator of their own.
-/

/-- A required raw step of the bundled plans. -/
def bundledStep (field method : String) (others : List (String × Value)) :
    Value :=
  .record
    (("field", .text field) :: ("method", .text method) :: others ++
      [("required", .bool true)])

/-- The plan of a form of the bundled plans. -/
def bundledForm (name : String) (steps : List Value) : String × Value :=
  (name, .record [("plan", .list steps)])

/-- The plan for changing the date of an application. -/
def applicationDatePlan : List Value :=
  [bundledStep "obsapp_id" "validate_obs_app_id_field" [],
    bundledStep "timestamp" "validate_unix_timestamp"
      [("args", .list [.int 1])]]

/-- The plan for requesting the restoration of data. -/
def restorationPlan : List Value :=
  [bundledStep "program" "validate_program_number_field" [],
    bundledStep "email" "validate_email_field" [("args", .list [.int 70])],
    .record
      [("field", .text "dates"),
        ("fields",
          .list
            [.text "startyear", .text "startmonth", .text "startday",
              .text "endyear", .text "endmonth", .text "endday"]),
        ("method", .text "validate_date_range"),
        ("required", .bool true),
        ("required_msg", .text "These fields are required")],
    bundledStep "instrument" "validate_selection"
      [("args", .list [.text "$context.instruments"])],
    .record
      [("field", .text "comments"),
        ("method", .text "validate_long_text_field")]]

/-- The plan for sending reminders of feedback. -/
def reminderPlan : List Value :=
  [bundledStep "semester" "validate_semester_field" [],
    bundledStep "emails_send_type" "validate_emails_send_type" [],
    bundledStep "interval" "validate_number_in_range"
      [("args", .list [.int 1, .int 52])],
    bundledStep "interval_unit" "validate_interval_unit_type" []]

/-- The bundled configuration. -/
def bundled : Value :=
  .record
    [("global", .record [("required_msg", .text "This field is required")]),
      ("forms",
        .record
          [bundledForm "update_application_date" applicationDatePlan,
            bundledForm "obs_data_restoration_request" restorationPlan,
            bundledForm "process_feedback_reminders" reminderPlan])]

end FormCheck.PlanFile
