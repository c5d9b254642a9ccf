import FormCheck.Form

namespace FormCheck.Form

/-!
# The guest account form

The submitted command decides which other inputs the form has: adding a guest
needs the whole account, extending and removing one need parts of it, and the
other commands stand alone. The account type is a single choice and is returned
as an integer.
-/

namespace GuestAccount

/-- The commands of the form. -/
def commands : List String :=
  ["addguest", "clearguest", "createguest", "extendguest", "removeguest"]

/-- The command that an empty input stands for. -/
def defaultCommand : String := "addguest"

/-- The account types. -/
def accountTypes : List Int := [0, 1, 2, 3, 4, 5, 6, 7, 8, 9, 10]

/-- The largest number of a user or a group. -/
def maximalAccount : Int := 20000

/-- The field of the account type. -/
def typeField : String := "accttype"

/-- The step of the command. -/
def commandStep : Value :=
  rawStep "command" "validate_string_in_set"
    [arguments [.list (commands.map Value.text)], isRequired]

/-- The step of the user name. -/
def userNameStep : Value :=
  rawStep "username" "validate_username" [arguments [.int 8], isRequired]

/-- The step of the expiry. -/
def expiryStep : Value :=
  rawStep "expiredays" "validate_unix_timestamp"
    [arguments [.int 1], isRequired]

/-- The step of the account type. -/
def typeStep : Value :=
  rawStep typeField "validate_selection"
    [arguments [.list (accountTypes.map Value.int)], isRequired]

/-- The step of the number of a user or a group. -/
def accountStep (field : String) (least : Int) : Value :=
  rawStep field "validate_number_in_range"
    [arguments
      [.int least, .int maximalAccount, .text ("Invalid " ++ field ++ ".")],
      isRequired]

/-- The step of a name of at most fifty characters. -/
def nameStep (field : String) : Value :=
  rawStep field "validate_name_field" [arguments [.int 50], isRequired]

/-- The step of the login shell. -/
def shellStep : Value :=
  rawStep "shell" "validate_shell_field" [isRequired]

/-- The raw steps for a command. -/
def rawSteps (command : Value) : List Value :=
  if command == .text "clearguest" || command == .text "createguest" then
    [commandStep]
  else if command == .text "extendguest" then
    [commandStep, userNameStep, expiryStep]
  else if command == .text "removeguest" then
    [commandStep, userNameStep, accountStep "uid" 0, typeStep]
  else
    [commandStep, userNameStep, nameStep "acctname", accountStep "uid" 1,
      accountStep "gid" 1, shellStep, nameStep "passwd", typeStep]

/-- The raw plan for some data. -/
def rawPlan (data : Value) : Except Fault Value := do
  let command ← data.get (.text "command")
  return .list (rawSteps (command.orElse (.text defaultCommand)))

/-- The clean values, with the account type as an integer. -/
def values (plan : Plan) (result : Result) : Except Fault CleanValues := do
  let values := Report.standardValues plan result
  match lookup typeField values with
  | none => return values
  | some chosen =>
      return put typeField (.int (← (← chosen.first).toInteger)) values

/-- How the form reports. -/
def style : Report.Style where
  errors := Report.standardErrors
  values := values

/-- The validator of the form. -/
def validator (registry : Registry) : Validator where
  name := "GuestAccountValidator"
  registry := registry
  rawPlan _ data _ := Journal.ofExcept (rawPlan data)
  style := style

end GuestAccount

end FormCheck.Form
