import FormCheck.Check
import FormCheck.Text.Blank
import FormCheck.Text.Email

namespace FormCheck

/-!
# Texts

The checks of this module take the text of any value, empty for null, and store
the text that they accept.
-/

namespace Check

/-- The longest short text. -/
def shortLimit : Value := .int 70

/-- The longest long text. -/
def longLimit : Value := .int 500

/-- The longest user name. -/
def userNameLimit : Value := .int 12

/-- The login shells accepted by default. -/
def defaultShells : Value :=
  .tuple
    [.text "/bin/bash", .text "/bin/csh", .text "/bin/sh", .text "/bin/tcsh",
      .text "/bin/zsh"]

/-- The session codes of the engineers. -/
def engineeringCodes : Value :=
  .tuple [.text "tisanpwd", .text "wbtcorar"]

/-- The length of a session code of a guest. -/
def guestCodeLength : Nat := 10

/-- Store a text of limited length. -/
def textLength (value key limit : Value) : Check Unit := do
  let text ← value.asText
  if ← limit.less (.int text.length) then
    reject key
      ("Invalid value. Must be 1-" ++ (← limit.shown) ++ " characters.")
  else
    setValue key (.text text)

/-- Store a text without the blanks around it that is an email address. -/
def emailFormat (value key : Value) : Check Unit := do
  let text := Text.strip (← value.asText)
  if Text.isEmailAddress text.toList then
    setValue key (.text text)
  else
    reject key "Invalid email format."

/-- Store a text that is one of the allowed values. -/
def textAmong (value key allowed : Value) : Check Unit := do
  let text ← value.asText
  if (← allowed.members).contains (.text text) then
    setValue key (.text text)
  else
    reject key "Invalid value."

/-- Store a text that has only ASCII letters and digits, and at least one. -/
def alphanumeric (value key : Value) : Check Unit := do
  let text ← value.asText
  if !text.isEmpty && text.toList.all Text.isAsciiAlphanumeric then
    setValue key (.text text)
  else
    reject key "Invalid value. Must be alphanumeric."

/-- Store a name: a text of limited length without the blanks around it. -/
def name (value key limit : Value) : Check Unit := do
  textLength (.text (Text.strip (← value.asText))) key limit

/-- Store a user name: short, of ASCII letters and digits. -/
def userName (value key limit : Value) : Check Unit := do
  textLength value key limit
  unless ← hasErrors key do
    alphanumeric value key

/-- Store a login shell that is one of the allowed ones. -/
def shell (value key allowed : Value) : Check Unit :=
  textAmong value key (allowed.orElse defaultShells)

/--
Store an email address, optionally of limited length and of ASCII letters and
digits only. Only the first failure is recorded.
-/
def email (value key limit isAlphanumeric : Value) : Check Unit := do
  emailFormat value key
  unless ← hasErrors key do
    let proceed ←
      match limit with
      | .null => pure true
      | limit => do
          textLength (← Check.value key) key limit
          pure !(← hasErrors key)
    if proceed && isAlphanumeric.isTruthy then
      alphanumeric (← Check.value key) key

/--
Store a session code: one of the given codes, or else a guest's code of ten
ASCII letters and digits.
-/
def sessionCode (value key codes : Value) : Check Unit := do
  let text ← value.asText
  if ← (codes.orElse engineeringCodes).holdsText text then
    setValue key (.text text)
  else if text.length ≠ guestCodeLength then
    reject key "Invalid session code. Must be 10 characters."
  else
    alphanumeric (.text text) key

end Check

end FormCheck
