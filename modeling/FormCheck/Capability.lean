import FormCheck.Check.Date
import FormCheck.Check.Required
import FormCheck.Check.Selection

namespace FormCheck

/-!
# Capabilities

A capability is a named check that plans can call. It is called with a number
of input values of its own, then the key of the field, then extra arguments,
some of which may be left out. Any other number of arguments is a fault, and
nothing is recorded then.
-/

/-- A named check with a fixed number of input values. -/
structure Capability where
  name : String
  inputs : Nat
  act : Environment → List Value → Value → List Value → Check Unit

namespace Capability

/-- Call a capability with all of its arguments in a row. -/
def call (capability : Capability) (environment : Environment)
    (arguments : List Value) : Check Unit :=
  match arguments.drop capability.inputs with
  | [] => Check.stop .wrongArity
  | field :: extra =>
      capability.act environment (arguments.take capability.inputs) field extra

/-- Checks of one input. -/
abbrev Single := Environment → Value → Value → List Value → Check Unit

/-- A capability of one input value. -/
def single (name : String) (act : Single) : Capability where
  name := name
  inputs := 1
  act environment values field extra :=
    match values with
    | [value] => act environment value field extra
    | _ => Check.stop .wrongArity

/-- A check without extra arguments, given an environment. -/
def plainIn (check : Environment → Value → Value → Check Unit) : Single :=
  fun environment value field extra =>
    match extra with
    | [] => check environment value field
    | _ => Check.stop .wrongArity

/-- A check without extra arguments. -/
def plain (check : Value → Value → Check Unit) : Single :=
  plainIn fun _ => check

/-- A check with one extra argument. -/
def withOne (check : Value → Value → Value → Check Unit) : Single :=
  fun _ value field extra =>
    match extra with
    | [argument] => check value field argument
    | _ => Check.stop .wrongArity

/-- A check with one extra argument that may be left out, given an environment. -/
def withOptionalIn (fallback : Value)
    (check : Environment → Value → Value → Value → Check Unit) : Single :=
  fun environment value field extra =>
    match extra with
    | [] => check environment value field fallback
    | [argument] => check environment value field argument
    | _ => Check.stop .wrongArity

/-- A check with one extra argument that may be left out. -/
def withOptional (fallback : Value)
    (check : Value → Value → Value → Check Unit) : Single :=
  withOptionalIn fallback fun _ => check

/-- A check with two extra arguments that may be left out, given an environment. -/
def withBoundsIn (lower upper : Value)
    (check : Environment → Value → Value → Value → Value → Check Unit) :
    Single :=
  fun environment value field extra =>
    match extra with
    | [] => check environment value field lower upper
    | [first] => check environment value field first upper
    | [first, second] => check environment value field first second
    | _ => Check.stop .wrongArity

/-- A check with two extra arguments that may be left out. -/
def withBounds (lower upper : Value)
    (check : Value → Value → Value → Value → Check Unit) : Single :=
  withBoundsIn lower upper fun _ => check

/-- The check for required inputs. -/
def requiredField : Capability where
  name := "validate_required_field"
  inputs := 2
  act _ values field extra :=
    match values, extra with
    | [value, isRequired], [message] =>
        Check.required value isRequired field message
    | _, _ => Check.stop .wrongArity

/-- The check for an integer. -/
def integer : Capability :=
  single "validate_integer" (plainIn Check.integer)

/-- The check for an integer between optional bounds. -/
def integerRange : Capability :=
  single "validate_integer_range"
    (withBoundsIn .null .null Check.integerRange)

/-- The check for a number. -/
def float : Capability :=
  single "validate_float" (plain Check.float)

/-- The check for a number between optional bounds. -/
def floatRange : Capability :=
  single "validate_float_range" (withBounds .null .null Check.floatRange)

/-- The check for an integer between bounds, with a message of its own. -/
def numberInRange : Capability :=
  single "validate_number_in_range" fun environment value field extra =>
    let check := Check.numberInRange environment value field
    match extra with
    | [] => check .null .null .null
    | [lower] => check lower .null .null
    | [lower, upper] => check lower upper .null
    | [lower, upper, message] => check lower upper message
    | _ => Check.stop .wrongArity

/-- The check for a short program number. -/
def shortProgramNumber : Capability :=
  single "validate_short_program_number_field"
    (withBoundsIn .null .null Check.shortProgramNumber)

/-- The check for an application number. -/
def applicationNumber : Capability :=
  single "validate_obs_app_id_field" (plainIn Check.applicationNumber)

/-- The check for a timestamp. -/
def timestamp : Capability :=
  single "validate_unix_timestamp"
    (withBoundsIn (.int 0) (.int Check.maximalTimestamp) Check.timestamp)

/-- The check for a text of limited length. -/
def textLength : Capability :=
  single "validate_string_length" (withOne Check.textLength)

/-- The check for the syntax of an email address. -/
def emailFormat : Capability :=
  single "validate_email_format" (plain Check.emailFormat)

/-- The check for one of some texts. -/
def textAmong : Capability :=
  single "validate_string_in_set" (withOne Check.textAmong)

/-- The check for letters and digits. -/
def alphanumeric : Capability :=
  single "validate_alphanumeric" (plain Check.alphanumeric)

/-- The check for a text of a given length. -/
def text : Capability :=
  single "validate_text_field" (withOne Check.textLength)

/-- The check for a short text. -/
def shortText : Capability :=
  single "validate_short_text_field"
    (withOptional Check.shortLimit Check.textLength)

/-- The check for a long text. -/
def longText : Capability :=
  single "validate_long_text_field"
    (withOptional Check.longLimit Check.textLength)

/-- The check for a name. -/
def personName : Capability :=
  single "validate_name_field" (withOptional Check.shortLimit Check.name)

/-- The check for a user name. -/
def userName : Capability :=
  single "validate_unix_username_field"
    (withOptional Check.userNameLimit Check.userName)

/-- The check for a login shell. -/
def shell : Capability :=
  single "validate_shell_field" (withOptional .null Check.shell)

/-- The check for an email address. -/
def email : Capability :=
  single "validate_email_field"
    (withBounds .null (.bool false) Check.email)

/-- The check for a semester tag. -/
def semesterTag : Capability :=
  single "validate_semester_tag_field" (plain Check.semesterTag)

/-- The check for a semester. -/
def semester : Capability :=
  single "validate_semester_field" (withBoundsIn .null .null Check.semester)

/-- The check for a program number. -/
def programNumber : Capability :=
  single "validate_program_number_field"
    (withBoundsIn .null .null Check.programNumber)

/-- The check for a session code. -/
def sessionCode : Capability :=
  single "validate_session_code_field"
    (withOptional .null Check.sessionCode)

/-- The check for one or more options. -/
def selection : Capability :=
  single "validate_selection" fun _ value field extra =>
    match extra with
    | [allowed] => Check.selection value field allowed (.bool true)
    | [allowed, byKey] => Check.selection value field allowed byKey
    | _ => Check.stop .wrongArity

/-- The check for a rating. -/
def rating : Capability :=
  single "validate_rating" (withOptionalIn (.bool false) Check.rating)

/-- The check for a two-way switch. -/
def binaryOption : Capability :=
  single "validate_binary_option" (plainIn Check.binaryOption)

/-- The check for a year. -/
def year : Capability :=
  single "validate_year" (withBoundsIn .null .null Check.year)

/-- The check for a month. -/
def month : Capability :=
  single "validate_month" (withBoundsIn (.int 1) (.int 12) Check.month)

/-- The check for a day of a month. -/
def day : Capability :=
  single "validate_day" (withBoundsIn (.int 1) (.int 31) Check.day)

/-- The check for an hour. -/
def hour : Capability :=
  single "validate_hour" (withBoundsIn (.int 0) (.int 23) Check.hour)

/-- The check for a minute. -/
def minute : Capability :=
  single "validate_minute" (withBoundsIn (.int 0) (.int 59) Check.minute)

/-- The check for a second. -/
def second : Capability :=
  single "validate_second" (withBoundsIn (.int 0) (.int 59) Check.second)

/-- The check for a date of three inputs. -/
def fullDate : Capability where
  name := "validate_full_date"
  inputs := 3
  act environment values field extra :=
    match values, extra with
    | [year, month, day], [] => Check.fullDate environment year month day field
    | _, _ => Check.stop .wrongArity

/-- The check for a date and time of six inputs. -/
def fullDateTime : Capability where
  name := "validate_full_date_time"
  inputs := 6
  act environment values field extra :=
    match values, extra with
    | [year, month, day, hour, minute, second], [] =>
        Check.fullDateTime environment year month day hour minute second field
    | _, _ => Check.stop .wrongArity

/-- The check for two dates of three inputs each. -/
def dateRange : Capability where
  name := "validate_date_range"
  inputs := 6
  act environment values field extra :=
    match values, extra with
    | [startYear, startMonth, startDay, endYear, endMonth, endDay], [] =>
        Check.dateRange environment startYear startMonth startDay endYear
          endMonth endDay field
    | _, _ => Check.stop .wrongArity

/-- The check for a date of three inputs and its semester. -/
def dateInSemester : Capability where
  name := "validate_date_semester"
  inputs := 4
  act environment values field extra :=
    match values, extra with
    | [year, month, day, semester], [] =>
        Check.dateInSemester environment year month day semester field
    | _, _ => Check.stop .wrongArity

end Capability

end FormCheck
